import BenchReport.Page.Syntax

/-! Where values are found while a page is rendered. -/
namespace BenchReport.Page

/-- Why a page cannot be rendered. -/
inductive Fault
  | missingValue
  | badIndex (step : String)
  | unknownHelper (name : String)
  | badArguments (helper : String)
  | unknownPage
  deriving DecidableEq

/-- What a block adds to the scope: its value, its own variables and the names of values. -/
structure Frame where
  value : Datum
  locals : List (String × Datum)
  names : List (String × Datum)

/-- The data of a page and the blocks around a place, from the innermost one; the outermost is the
page itself. -/
structure Scope where
  root : Datum
  frames : List Frame

/-- The text as the index of an item: digits, perhaps after a plus sign, below `2 ^ 64`. -/
def index? (text : List Char) : Option Nat :=
  let digits := match text with
    | '+' :: rest => rest
    | rest => rest
  let index := Nat.ofDigitChars 10 digits 0
  if digits.isEmpty || !digits.all Char.isDigit || Nat.pow 2 64 ≤ index then none else some index

/-- One step from a value. A step from a list has to be an index, even where there is no item. -/
def Datum.step? (value : Datum) (step : String) : Except Fault (Option Datum) :=
  match value with
  | .list items =>
    match index? step.toList with
    | some i => .ok items[i]?
    | none => .error (.badIndex step)
  | .object members => .ok (member? step members)
  | _ => .ok none

/-- Steps from a value, as far as there is one. -/
def Datum.descend? (value : Datum) : List String → Except Fault (Option Datum)
  | [] => .ok (some value)
  | step :: rest =>
    match value.step? step with
    | .error fault => .error fault
    | .ok none => .ok none
    | .ok (some next) => next.descend? rest

namespace Scope

def ofData (root : Datum) : Scope := ⟨root, [⟨root, [], []⟩]⟩

def enter (scope : Scope) (frame : Frame) : Scope :=
  { scope with frames := frame :: scope.frames }

/-- The value that the innermost block has given a name to. -/
def named? (scope : Scope) (name : String) : Option Datum :=
  scope.frames.findSome? fun frame => Datum.member? name frame.names

/-- The value so many blocks up; beyond the page itself it is that of the innermost block. -/
def value (scope : Scope) (level : Nat) : Datum :=
  match scope.frames[level]?, scope.frames with
  | some frame, _ => frame.value
  | none, frame :: _ => frame.value
  | none, [] => scope.root

/-- The value that a path leads to, if there is one. A name that a block gave hides the members of
that name, whatever the level. -/
def lookUp (scope : Scope) (path : Path) : Except Fault (Option Datum) :=
  match path with
  | .loop level name =>
    match scope.frames[level]? with
    | some frame => .ok (Datum.member? name frame.locals)
    | none => .ok none
  | .root steps => scope.root.descend? steps
  | .relative level steps =>
    match steps with
    | [] => .ok (some (scope.value level))
    | first :: rest =>
      match scope.named? first with
      | some value => value.descend? rest
      | none => (scope.value level).descend? (first :: rest)

end Scope

end BenchReport.Page
