import BenchReport.Number.Rounding
import BenchReport.Text.Blank

/-!
The shortest decimal of a double: the fewest digits that read back to it, and of those the
nearest. The candidates on each decimal grid are the two neighbours of the exact value.
-/
namespace BenchReport

/-- A decimal: its digits, without zeros at the end, and the power of ten of the first one. -/
structure Decimal where
  digits : List Char
  leading : Int
  deriving DecidableEq

namespace Decimal

/-- The power of ten of the first digit of a positive quotient. -/
def leadingPower (num den : Nat) : Int :=
  if den ≤ num then (Nat.toDigits 10 (num / den)).length - 1
  else
    let length := (Nat.toDigits 10 (den / num)).length
    if den ≤ num * Nat.pow 10 (length - 1) then -(length - 1 : Nat) else -length

/-- The quotient in units of a power of ten, as a new quotient. -/
def scaled (num den : Nat) (power : Int) : Nat × Nat :=
  if 0 ≤ power then (num, den * Nat.pow 10 power.toNat)
  else (num * Nat.pow 10 (-power).toNat, den)

/-- The nearest of the two neighbours of a quotient on the grid of a power of ten that reads back
to the rank. -/
def onGrid? (rank num den : Nat) (power : Int) : Option Nat :=
  let (n, d) := scaled num den power
  let below := n / d
  let readsBack (digits : Nat) : Bool :=
    Binary64.ofDecimal false digits power == Binary64.ofRank false rank
  if readsBack below then
    if readsBack (below + 1) then some (roundHalfEven n d) else some below
  else if readsBack (below + 1) then some (below + 1)
  else none

/-- The decimal of whole digits times a power of ten. -/
def ofDigits (digits : Nat) (power : Int) : Decimal :=
  let text := Nat.toDigits 10 digits
  { digits := Text.dropEndWhile (· == '0') text, leading := power + text.length - 1 }

/-- The decimal with so many digits after the first one, if it reads back to the rank. -/
def attempt? (rank : Nat) (first : Int) (count : Nat) : Option Decimal :=
  let power := first - count
  (onGrid? rank (Binary64.magnitude rank) Binary64.unit power).map fun digits =>
    ofDigits digits power

/-- How many times `10 ^ -1074` the smallest magnitude is. -/
def tenths : Nat := Nat.pow 5 1074

def exact (rank : Nat) : Decimal := ofDigits (Binary64.magnitude rank * tenths) (-1074)

/-- The shortest decimal that reads back to a positive rank; seventeen digits always do. -/
def shortest (rank : Nat) : Decimal :=
  let first := leadingPower (Binary64.magnitude rank) Binary64.unit
  ((List.range 17).findSome? (attempt? rank first)).getD (exact rank)

end Decimal

end BenchReport
