import BenchReport.Number.Binary64

/-! Rounding exact quantities to doubles: the nearest one, and of two equally near the even one. -/
namespace BenchReport

/-- The whole number nearest to a quotient; a half goes to the even neighbour. -/
def roundHalfEven (num den : Nat) : Nat :=
  let quotient := num / den
  let twice := 2 * (num % den)
  if twice < den then quotient
  else if den < twice then quotient + 1
  else quotient + quotient % 2

@[simp] theorem roundHalfEven_one (n : Nat) : roundHalfEven n 1 = n := by
  simp [roundHalfEven, Nat.mod_one]

namespace Binary64

/-- The rank nearest to a quotient of smallest magnitudes; it may exceed every finite rank. -/
def nearestRank (num den : Nat) : Nat :=
  let shift := Nat.log2 (num / den) - 52
  shift * Nat.pow 2 52 + roundHalfEven num (den * Nat.pow 2 shift)

/-- The double of a rank; beyond the finite ranks it is infinite. -/
def ofRank (negative : Bool) (rank : Nat) : Binary64 :=
  if h : rank < rankCount then finite negative ⟨rank, h⟩ else infinite negative

/-- The double nearest to a quotient of smallest magnitudes. -/
def ofRatio (negative : Bool) (num den : Nat) : Binary64 := ofRank negative (nearestRank num den)

def ofNat (n : Nat) : Binary64 := ofRatio false (n * unit) 1

def ofInt (n : Int) : Binary64 := ofRatio (n < 0) (n.natAbs * unit) 1

/-- The double nearest to `digits * 10 ^ exponent`. Exponents far out of range are settled by the
number of digits alone, so that no huge power is formed. -/
def ofDecimal (negative : Bool) (digits : Nat) (exponent : Int) : Binary64 :=
  let reach := exponent + (Nat.toDigits 10 digits).length
  if digits = 0 then ofRank negative 0
  else if 310 < reach then infinite negative
  else if reach < -330 then ofRank negative 0
  else if 0 ≤ exponent then ofRatio negative (digits * Nat.pow 10 exponent.toNat * unit) 1
  else ofRatio negative (digits * unit) (Nat.pow 10 (-exponent).toNat)

end Binary64

end BenchReport
