/-!
Double-precision numbers. The finite magnitudes are numbered from zero upwards, so that comparing
numbers compares ranks; a magnitude is a whole multiple of the smallest positive one,
`2 ^ -1074`.
-/
namespace BenchReport

/-- How many finite magnitudes there are. -/
def Binary64.rankCount : Nat := 2047 * Nat.pow 2 52

/-- A double-precision number; all NaNs are one value. -/
inductive Binary64
  | nan
  | infinite (negative : Bool)
  | finite (negative : Bool) (rank : Fin Binary64.rankCount)
  deriving DecidableEq

namespace Binary64

/-- Magnitudes of the rank are spaced by `2 ^ binade` smallest magnitudes. -/
def binade (rank : Nat) : Nat := rank / Nat.pow 2 52 - 1

/-- The magnitude of a rank, in multiples of the smallest one. -/
def magnitude (rank : Nat) : Nat := (rank - binade rank * Nat.pow 2 52) * Nat.pow 2 (binade rank)

theorem magnitude_of_lt {rank : Nat} (h : rank < Nat.pow 2 53) : magnitude rank = rank := by
  have hzero : binade rank = 0 := by simp only [binade, Nat.pow_eq] at h ⊢; omega
  simp [magnitude, hzero]

/-- How many smallest magnitudes make one. -/
def unit : Nat := Nat.pow 2 1074

def zero : Binary64 := finite false ⟨0, by decide⟩

def negativeZero : Binary64 := finite true ⟨0, by decide⟩

def isNaN : Binary64 → Bool
  | nan => true
  | _ => false

def isFinite : Binary64 → Bool
  | finite _ _ => true
  | _ => false

def neg : Binary64 → Binary64
  | nan => nan
  | infinite negative => infinite !negative
  | finite negative rank => finite (!negative) rank

/-- A key by which the numbers other than NaN are ordered; both zeros share one. -/
def key : Binary64 → Int
  | nan => 0
  | infinite negative => if negative then -rankCount else rankCount
  | finite negative rank => if negative then -rank.val else rank.val

/-- The order of numbers; NaN is below and above nothing. -/
def lt (x y : Binary64) : Bool := !x.isNaN && !y.isNaN && decide (x.key < y.key)

/-- The order of numbers, or equality of them. -/
def le (x y : Binary64) : Bool := !x.isNaN && !y.isNaN && decide (x.key ≤ y.key)

/-- Equality as numbers: zeros are equal, NaNs are not. -/
def eq (x y : Binary64) : Bool := !x.isNaN && !y.isNaN && decide (x.key = y.key)

/-- The interchange encoding as a number below `2 ^ 64`. -/
def bits : Binary64 → Nat
  | nan => 2047 * Nat.pow 2 52 + Nat.pow 2 51
  | infinite negative => (if negative then Nat.pow 2 63 else 0) + rankCount
  | finite negative rank => (if negative then Nat.pow 2 63 else 0) + rank.val

end Binary64

end BenchReport
