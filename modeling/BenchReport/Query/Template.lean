/-!
Query templates: text with placeholders `${name}`. Values are put in as they are and never
scanned again; an unknown or unfinished placeholder stays as it is written.
-/
namespace BenchReport.Query

/-- Text with placeholders. -/
structure Template where
  text : String
  deriving DecidableEq

/-- Values by placeholder name; of two values for one name the first counts. -/
abbrev Bindings := List (String × String)

namespace Bindings

def value? : Bindings → List Char → Option (List Char)
  | [], _ => none
  | (name, value) :: rest, key => if name.toList = key then some value.toList else value? rest key

/-- What a placeholder stands for: its value, or itself. -/
def fill (bindings : Bindings) (key : List Char) : List Char :=
  match bindings.value? key with
  | some value => value
  | none => '$' :: '\x7b' :: (key ++ ['\x7d'])

end Bindings

namespace Template

mutual

def expand (bindings : Bindings) : List Char → List Char
  | [] => []
  | '$' :: '\x7b' :: rest => expandKey bindings [] rest
  | c :: rest => c :: expand bindings rest

/-- Expansion inside a placeholder, whose name so far is given backwards. -/
def expandKey (bindings : Bindings) (name : List Char) : List Char → List Char
  | [] => '$' :: '\x7b' :: name.reverse
  | c :: rest =>
    if c = '\x7d' then bindings.fill name.reverse ++ expand bindings rest
    else expandKey bindings (c :: name) rest

end

def render (template : Template) (bindings : Bindings) : String :=
  String.ofList (expand bindings template.text.toList)

end Template

end BenchReport.Query
