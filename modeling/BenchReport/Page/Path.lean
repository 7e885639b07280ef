/-!
Paths in page templates: `runs.[0].name`, `../units`, `@index`, `@root.run_count`. A path is
written without blanks; its steps are separated by points or slashes.
-/
namespace BenchReport.Page

/-- Where a value is looked up: among the variables of a loop so many levels up, from the root of
the data, or from the value so many levels up. -/
inductive Path
  | loop (level : Nat) (name : String)
  | root (steps : List String)
  | relative (level : Nat) (steps : List String)
  deriving DecidableEq

/-- Characters of names: ASCII letters and digits, underscore, dash, dollar, and everything beyond
ASCII. -/
def isNameChar (c : Char) : Bool :=
  c.isAlphanum || c == '_' || c == '-' || c == '$' || 128 ≤ c.toNat

def readName? (text : List Char) : Option (String × List Char) :=
  let name := text.takeWhile isNameChar
  if name.isEmpty then none else some (String.ofList name, text.dropWhile isNameChar)

def dropWord? : List Char → List Char → Option (List Char)
  | [], text => some text
  | _ :: _, [] => none
  | c :: word, d :: text => if c = d then dropWord? word text else none

namespace Path

def isSeparator (c : Char) : Bool := c == '.' || c == '/'

/-- The text after a separator that has to stand here. -/
def dropSeparator? : List Char → Option (List Char)
  | c :: rest => if isSeparator c then some rest else none
  | [] => none

/-- The text after a word and a separator, if both stand here. -/
def dropSeparated (word text : List Char) : Option (List Char) :=
  match dropWord? word text with
  | some rest => dropSeparator? rest
  | none => none

/-- The text after a mention of the current value: `this` and a separator, or `./`. -/
def dropCurrent (text : List Char) : List Char :=
  match dropSeparated "this".toList text with
  | some rest => rest
  | none => (dropWord? ['.', '/'] text).getD text

/-- How often a text goes one level up at its start, and the text after that. -/
def readLevels : Nat → List Char → Nat × List Char
  | 0, text => (0, text)
  | fuel + 1, text =>
    match dropSeparated ['.', '.'] text with
    | none => (0, text)
    | some rest =>
      let (level, rest) := readLevels fuel rest
      (level + 1, rest)

/-- One step: a name, or any text in brackets. -/
def readStep? : List Char → Option (String × List Char)
  | '[' :: rest =>
    match rest.dropWhile (· != ']') with
    | _ :: after => some (String.ofList (rest.takeWhile (· != ']')), after)
    | [] => none
  | text => readName? text

def readSteps : Nat → List Char → List String × List Char
  | 0, text => ([], text)
  | fuel + 1, text =>
    match (dropSeparator? text).bind readStep? with
    | none => ([], text)
    | some (step, rest) =>
      let (steps, rest) := readSteps fuel rest
      (step :: steps, rest)

/-- The path with these marks and steps; a step `this` leads nowhere else. -/
def ofParts (fromRoot isLoop : Bool) (level : Nat) (steps : List String) : Path :=
  let steps := steps.filter (· != "this")
  if fromRoot then root steps
  else if isLoop then
    match steps with
    | name :: _ => loop level name
    | [] => relative 0 []
  else relative level steps

def read? (text : List Char) : Option (Path × List Char) :=
  let text := dropCurrent text
  let (fromRoot, text) :=
    match dropSeparated "@root".toList text with
    | some rest => (true, rest)
    | none => (false, text)
  let (isLoop, text) :=
    match text with
    | '@' :: rest => (true, rest)
    | text => (false, text)
  let (level, text) := readLevels text.length text
  match readStep? text with
  | none => none
  | some (first, rest) =>
    let (steps, rest) := readSteps rest.length rest
    some (ofParts fromRoot isLoop level (first :: steps), rest)

end Path

end BenchReport.Page
