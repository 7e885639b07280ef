import BenchReport.Page.Scope

/-!
The helpers of page templates. Some compute a value from their arguments; the others choose what a
block shows. An argument without a value is `none`.
-/
namespace BenchReport.Page

/-- The arguments of a helper: those by position and those by name. -/
structure Arguments where
  values : List (Option Datum)
  options : List (String × Option Datum)

namespace Arguments

def option? (arguments : Arguments) (name : String) : Option Datum :=
  ((arguments.options.reverse.find? fun entry => entry.1 = name).map (·.2)).join

end Arguments

/-- A helper that computes a value. -/
inductive Operation
  | lookup | equal | notEqual | greater | atLeast | less | atMost | both | either | negate | size
  deriving DecidableEq

namespace Operation

def ofName? (name : String) : Option Operation :=
  [("lookup", lookup), ("eq", equal), ("ne", notEqual), ("gt", greater), ("gte", atLeast),
    ("lt", less), ("lte", atMost), ("and", both), ("or", either), ("not", negate),
    ("len", size)].lookup name

def word? : Datum → Option Int
  | .integer n => if -(Nat.pow 2 63 : Int) ≤ n ∧ n < Nat.pow 2 63 then some n else none
  | _ => none

/-- The item or member of a value that another one names. -/
def select? : Datum → Datum → Option Datum
  | .list items, .integer i => if i < 0 then none else items[i.toNat]?
  | .object members, .text name => Datum.member? name members
  | _, _ => none

def compare? (holds : Int → Int → Bool) (x y : Datum) : Option Datum :=
  match word? x, word? y with
  | some m, some n => some (.bool (holds m n))
  | _, _ => none

/-- What an operation comes to, given the arguments that it takes; more do not matter. -/
def result? (op : Operation) (values : List (Option Datum)) : Option Datum :=
  match op, values with
  | lookup, some x :: some y :: _ => select? x y
  | equal, some x :: some y :: _ => some (.bool (x.same y))
  | notEqual, some x :: some y :: _ => some (.bool !(x.same y))
  | greater, some x :: some y :: _ => compare? (fun m n => n < m) x y
  | atLeast, some x :: some y :: _ => compare? (fun m n => n ≤ m) x y
  | less, some x :: some y :: _ => compare? (fun m n => m < n) x y
  | atMost, some x :: some y :: _ => compare? (fun m n => m ≤ n) x y
  | both, some x :: some y :: _ => some (.bool (x.holds false && y.holds false))
  | either, some x :: some y :: _ => some (.bool (x.holds false || y.holds false))
  | negate, some x :: _ => some (.bool !(x.holds false))
  | size, some x :: _ => some (.integer x.size)
  | _, _ => none

end Operation

/-- A helper that chooses what a block shows. -/
inductive Chooser
  | ifTrue | ifFalse | each | inside | unchanged | logged
  deriving DecidableEq

def Chooser.ofName? (name : String) : Option Chooser :=
  [("if", ifTrue), ("unless", ifFalse), ("each", each), ("with", inside), ("raw", unchanged),
    ("log", logged)].lookup name

def isHelper (name : String) : Bool :=
  (Operation.ofName? name).isSome || (Chooser.ofName? name).isSome

/-- Names of the levels that messages can be logged at. -/
def logLevels : List String := ["error", "warn", "info", "debug", "trace"]

/-- Whether a message can be logged at the level that an option names. -/
def isLogLevel : Option Datum → Bool
  | some (.text s) => logLevels.contains (String.ofList (s.toList.map Char.toLower))
  | _ => true

/-- Whether a call without a block comes to nothing rather than to a fault. -/
def Chooser.isQuiet (chooser : Chooser) (arguments : Arguments) : Bool :=
  match chooser with
  | ifTrue | ifFalse | each => !arguments.values.isEmpty
  | inside => (arguments.values.head?.join.map (Datum.holds false)).getD false
  | unchanged => true
  | logged => isLogLevel (arguments.option? "level")

/-- What the call of a helper comes to as a value; a chooser comes to the empty text. -/
def callValue (name : String) (arguments : Arguments) : Except Fault Datum :=
  match Operation.ofName? name, Chooser.ofName? name with
  | some op, _ =>
    match op.result? arguments.values with
    | some value => .ok value
    | none => .error (.badArguments name)
  | none, some chooser =>
    if chooser.isQuiet arguments then .ok (.text "") else .error (.badArguments name)
  | none, none => .error (.unknownHelper name)

namespace Scope

mutual

/-- The value of a parameter, if it has one. -/
def evaluate (scope : Scope) : Param → Except Fault (Option Datum)
  | .path _ path => scope.lookUp path
  | .literal value => .ok (some value)
  | .call name params options =>
    match scope.evaluateAll params with
    | .error fault => .error fault
    | .ok values =>
      match scope.evaluateOptions options with
      | .error fault => .error fault
      | .ok options =>
        match callValue name ⟨values, options⟩ with
        | .error fault => .error fault
        | .ok value => .ok (some value)
termination_by structural param => param

def evaluateAll (scope : Scope) : List Param → Except Fault (List (Option Datum))
  | [] => .ok []
  | param :: rest =>
    match scope.evaluate param with
    | .error fault => .error fault
    | .ok value =>
      match scope.evaluateAll rest with
      | .error fault => .error fault
      | .ok values => .ok (value :: values)
termination_by structural params => params

def evaluateOptions (scope : Scope) :
    List (String × Param) → Except Fault (List (String × Option Datum))
  | [] => .ok []
  | (name, param) :: rest =>
    match scope.evaluate param with
    | .error fault => .error fault
    | .ok value =>
      match scope.evaluateOptions rest with
      | .error fault => .error fault
      | .ok options => .ok ((name, value) :: options)
termination_by structural options => options

end

def arguments (scope : Scope) (params : List Param) (options : List (String × Param)) :
    Except Fault Arguments :=
  match scope.evaluateAll params with
  | .error fault => .error fault
  | .ok values =>
    match scope.evaluateOptions options with
    | .error fault => .error fault
    | .ok options => .ok ⟨values, options⟩

end Scope

end BenchReport.Page
