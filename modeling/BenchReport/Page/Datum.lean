import BenchReport.Json.Printer

/-! The data that pages show. -/
namespace BenchReport.Page

/-- A value in the data of a page; the members of an object are in the order of their names. -/
inductive Datum
  | null
  | bool (b : Bool)
  | integer (n : Int)
  | real (x : Binary64)
  | text (s : String)
  | list (items : List Datum)
  | object (members : List (String × Datum))

namespace Datum

mutual

def shown : Datum → List Char
  | .null => []
  | .bool b => if b then "true".toList else "false".toList
  | .integer n => (toString n).toList
  | .real x => Json.numberText x
  | .text s => s.toList
  | .list [] => ['[', ']']
  | .list (first :: rest) => '[' :: (first.shown ++ shownItems rest)
  | .object _ => "[object]".toList
termination_by structural value => value

/-- How the items after the first are shown, and the end of the list. -/
def shownItems : List Datum → List Char
  | [] => [']']
  | next :: rest => ',' :: ' ' :: (next.shown ++ shownItems rest)
termination_by structural items => items

end

mutual

/-- Whether two values are the same. A whole number is never the same as one with a point. -/
def same : Datum → Datum → Bool
  | .null, .null => true
  | .bool a, .bool b => a == b
  | .integer m, .integer n => m == n
  | .real x, .real y => x.eq y
  | .text s, .text t => s == t
  | .list xs, .list ys => sameItems xs ys
  | .object xs, .object ys => sameMembers xs ys
  | _, _ => false
termination_by structural value => value

def sameItems : List Datum → List Datum → Bool
  | [], [] => true
  | x :: xs, y :: ys => same x y && sameItems xs ys
  | _, _ => false
termination_by structural items => items

def sameMembers : List (String × Datum) → List (String × Datum) → Bool
  | [], [] => true
  | (key, x) :: xs, (other, y) :: ys => key == other && same x y && sameMembers xs ys
  | _, _ => false
termination_by structural members => members

end

/-- The smallest rank whose magnitude is written with all its digits. -/
def firstNormalRank : Nat := Nat.pow 2 52

/-- Whether a number counts as true: it does unless it is zero or too small to be written with all
its digits. Where zero counts, every number does. -/
def numberHolds (zeroCounts : Bool) : Binary64 → Bool
  | .nan => false
  | .infinite _ => zeroCounts
  | .finite _ rank => zeroCounts || decide (firstNormalRank ≤ rank.val)

/-- Whether a value counts as true: nothing empty does. -/
def holds (zeroCounts : Bool) : Datum → Bool
  | .null => false
  | .bool b => b
  | .integer n => zeroCounts || n != 0
  | .real x => numberHolds zeroCounts x
  | .text s => !s.isEmpty
  | .list items => !items.isEmpty
  | .object members => !members.isEmpty

/-- The size of a value: items, members or bytes; other values have none. -/
def size : Datum → Nat
  | .text s => s.utf8ByteSize
  | .list items => items.length
  | .object members => members.length
  | _ => 0

def member? (name : String) (members : List (String × Datum)) : Option Datum :=
  (members.find? fun entry => entry.1 = name).map (·.2)

end Datum

end BenchReport.Page
