/-!
Paths as text and as components. Repeated and trailing separators and inner `.` components do not
count; a leading `.` and every `..` do.
-/
namespace BenchReport.Path

/-- One step of a path. -/
inductive Component
  | root | here | up
  | name (text : List Char)
  deriving DecidableEq

/-- The parts of a text between slashes. -/
def segments : List Char → List (List Char)
  | [] => [[]]
  | c :: rest =>
    if c = '/' then [] :: segments rest
    else
      match segments rest with
      | [] => [[c]]
      | first :: more => (c :: first) :: more

/-- The component that a segment after the first is, if it counts. -/
def innerComponent? (segment : List Char) : Option Component :=
  if segment = [] ∨ segment = ['.'] then none
  else if segment = ['.', '.'] then some .up
  else some (.name segment)

def components (path : String) : List Component :=
  match segments path.toList with
  | [] => []
  | [first] => if first = ['.'] then [.here] else (innerComponent? first).toList
  | [] :: rest => .root :: rest.filterMap innerComponent?
  | first :: rest =>
    (if first = ['.'] then [.here] else (innerComponent? first).toList) ++
      rest.filterMap innerComponent?

def Component.text : Component → List Char
  | root => []
  | here => ['.']
  | up => ['.', '.']
  | name text => text

/-- The path of components, each separated from the next by one slash. -/
def ofComponents : List Component → String
  | [.root] => "/"
  | parts => String.ofList (['/'].intercalate (parts.map Component.text))

/-- The path of a relative name in a directory; the empty directory adds nothing. -/
def join (dir name : String) : String :=
  if dir.isEmpty then name
  else if dir.toList.getLast? = some '/' then dir ++ name
  else dir ++ "/" ++ name

def commonPrefix {α : Type} [DecidableEq α] : List α → List α → List α
  | x :: xs, y :: ys => if x = y then x :: commonPrefix xs ys else []
  | _, _ => []

/-- The deepest path whose components every given path begins with. -/
def commonParent? : List String → Option String
  | [] => none
  | first :: rest =>
    some (ofComponents
      (rest.foldl (fun common path => commonPrefix common (components path)) (components first)))

end BenchReport.Path
