import BenchReport.Number.Numeral
import Mathlib.Data.Nat.Digits.Defs
import Mathlib.Tactic.FieldSimp
import Mathlib.Tactic.Linarith
import Mathlib.Tactic.Ring

/-!
Rounding looks at the exact quantity alone, whatever fraction or decimal it is written as. It keeps
the order of quantities, and leaves the magnitudes of doubles as they are.
-/
namespace BenchReport

theorem roundHalfEven_mul_left {k : Nat} (hk : 0 < k) (num den : Nat) :
    roundHalfEven (k * num) (k * den) = roundHalfEven num den := by
  have hlt (a b : Nat) : k * a < k * b ↔ a < b := Nat.mul_lt_mul_left hk
  simp only [roundHalfEven, Nat.mul_div_mul_left num den hk, Nat.mul_mod_mul_left,
    Nat.mul_left_comm 2 k, hlt]

theorem roundHalfEven_eq_or (num den : Nat) :
    roundHalfEven num den = num / den ∨ roundHalfEven num den = num / den + 1 := by
  simp only [roundHalfEven]
  split_ifs <;> omega

@[simp] theorem roundHalfEven_zero (den : Nat) : roundHalfEven 0 den = 0 := by
  simp [roundHalfEven]

/-- Rounding to a whole number keeps the order of the numerators. -/
theorem roundHalfEven_mono (den : Nat) : Monotone fun num => roundHalfEven num den := by
  intro a b h
  show roundHalfEven a den ≤ roundHalfEven b den
  -- Within one quotient the remainders decide; otherwise the larger quotient is not yet reached.
  by_cases hquotient : a / den = b / den
  · have hremainder : a % den ≤ b % den := by
      have ha := Nat.div_add_mod a den
      have hb := Nat.div_add_mod b den
      rw [hquotient] at ha
      omega
    unfold roundHalfEven
    rw [hquotient]
    dsimp only
    split_ifs <;> omega
  · have hless : a / den < b / den := lt_of_le_of_ne (Nat.div_le_div_right h) hquotient
    have ha := roundHalfEven_eq_or a den
    have hb := roundHalfEven_eq_or b den
    omega

namespace Binary64

theorem nearestRank_mul_left {k : Nat} (hk : 0 < k) (num den : Nat) :
    nearestRank (k * num) (k * den) = nearestRank num den := by
  simp only [nearestRank, Nat.mul_div_mul_left num den hk, Nat.mul_assoc,
    roundHalfEven_mul_left hk]

/-- Equal quotients have the same nearest rank. -/
theorem nearestRank_congr {n₁ d₁ n₂ d₂ : Nat} (h₁ : 0 < d₁) (h₂ : 0 < d₂)
    (h : n₁ * d₂ = n₂ * d₁) : nearestRank n₁ d₁ = nearestRank n₂ d₂ := by
  calc nearestRank n₁ d₁ = nearestRank (d₂ * n₁) (d₂ * d₁) := (nearestRank_mul_left h₂ _ _).symm
    _ = nearestRank (d₁ * n₂) (d₁ * d₂) := by
      rw [Nat.mul_comm d₂ n₁, h, Nat.mul_comm n₂ d₁, Nat.mul_comm d₂ d₁]
    _ = nearestRank n₂ d₂ := nearestRank_mul_left h₁ _ _

/-- From the second binade on, a magnitude is a significand of 53 bits in the binade of its rank. -/
theorem magnitude_significand {rank : Nat} (h : 2 ^ 53 ≤ rank) :
    ∃ m, 2 ^ 52 ≤ m ∧ m < 2 ^ 53 ∧ rank = binade rank * 2 ^ 52 + m ∧
      magnitude rank = m * 2 ^ binade rank := by
  refine ⟨rank - binade rank * 2 ^ 52, ?_, ?_, ?_, rfl⟩
  all_goals
    simp only [binade, Nat.pow_eq]
    omega

theorem magnitude_le_succ (rank : Nat) : magnitude rank ≤ magnitude (rank + 1) := by
  have hbinade : binade (rank + 1) = binade rank ∨
      binade (rank + 1) = binade rank + 1 ∧ rank + 1 = (binade rank + 2) * 2 ^ 52 := by
    simp only [binade, Nat.pow_eq]
    omega
  rcases hbinade with hsame | ⟨hnext, hlast⟩
  · unfold magnitude
    rw [hsame]
    apply Nat.mul_le_mul_right
    omega
  · -- The last significand of a binade lies below the first of the next one.
    have hlow : rank - binade rank * 2 ^ 52 ≤ 2 ^ 53 := by omega
    have hhigh : rank + 1 - (binade rank + 1) * 2 ^ 52 = 2 ^ 52 := by omega
    unfold magnitude
    simp only [Nat.pow_eq, hnext, hhigh]
    calc (rank - binade rank * 2 ^ 52) * 2 ^ binade rank ≤ 2 ^ 53 * 2 ^ binade rank :=
          Nat.mul_le_mul_right _ hlow
      _ = 2 ^ 52 * 2 ^ (binade rank + 1) := by ring

/-- The ranks number the magnitudes in their order. -/
theorem magnitude_mono : Monotone magnitude := monotone_nat_of_le_succ magnitude_le_succ

@[simp] theorem magnitude_zero : magnitude 0 = 0 := magnitude_of_lt (by decide)

theorem nearestRank_magnitude (rank : Nat) : nearestRank (magnitude rank) 1 = rank := by
  -- Up to the second binade ranks are magnitudes; beyond, the logarithm gives the binade back.
  by_cases h : rank < 2 ^ 53
  · have hlog : Nat.log2 rank - 52 = 0 := by
      by_cases hz : rank = 0
      · simp [hz]
      · have := (Nat.log2_lt hz).mpr h
        omega
    simp [nearestRank, magnitude_of_lt h, hlog]
  · obtain ⟨m, hlo, hhi, hrank, hmag⟩ := magnitude_significand (Nat.not_lt.mp h)
    have hpos : 0 < 2 ^ binade rank := Nat.two_pow_pos _
    have hne : m * 2 ^ binade rank ≠ 0 := Nat.mul_ne_zero (by omega) hpos.ne'
    have hlog : Nat.log2 (m * 2 ^ binade rank) = 52 + binade rank := by
      rw [Nat.log2_eq_iff hne, Nat.add_right_comm, Nat.pow_add, Nat.pow_add]
      exact ⟨Nat.mul_le_mul_right _ hlo, Nat.mul_lt_mul_of_pos_right hhi hpos⟩
    have hround : roundHalfEven (m * 2 ^ binade rank) (1 * 2 ^ binade rank) = m := by
      rw [Nat.mul_comm m, Nat.mul_comm 1, roundHalfEven_mul_left hpos, roundHalfEven_one]
    simp only [nearestRank, hmag, Nat.div_one, hlog, Nat.add_sub_cancel_left, Nat.pow_eq, hround]
    omega

/-- The exact value of digits times a power of ten, in smallest magnitudes, as a fraction. -/
def decimalFraction (digits : Nat) (exponent : Int) : Nat × Nat :=
  if 0 ≤ exponent then (digits * 10 ^ exponent.toNat * unit, 1)
  else (digits * unit, 10 ^ (-exponent).toNat)

theorem decimalFraction_pos (digits : Nat) (exponent : Int) :
    0 < (decimalFraction digits exponent).2 := by
  unfold decimalFraction
  split
  · exact Nat.one_pos
  · exact Nat.pow_pos (by decide)

theorem decimalFraction_eq (digits : Nat) (exponent : Int) :
    ((decimalFraction digits exponent).1 : ℚ) / (decimalFraction digits exponent).2 =
      digits * (10 : ℚ) ^ exponent * unit := by
  unfold decimalFraction
  generalize unit = u
  split
  case isTrue h =>
    obtain ⟨n, rfl⟩ := Int.eq_ofNat_of_zero_le h
    simp
  case isFalse h =>
    obtain ⟨n, hn⟩ := Int.eq_ofNat_of_zero_le (show 0 ≤ -exponent by omega)
    obtain rfl : exponent = -(n : Int) := by omega
    simp only [neg_neg, Int.toNat_natCast, Nat.cast_mul, Nat.cast_pow, Nat.cast_ofNat, zpow_neg,
      zpow_natCast]
    field_simp

/-- Decimals of one value have the same nearest rank. -/
theorem nearestRank_decimalFraction_congr {d₁ d₂ : Nat} {e₁ e₂ : Int}
    (h : (d₁ : ℚ) * (10 : ℚ) ^ e₁ = d₂ * (10 : ℚ) ^ e₂) :
    nearestRank (decimalFraction d₁ e₁).1 (decimalFraction d₁ e₁).2 =
      nearestRank (decimalFraction d₂ e₂).1 (decimalFraction d₂ e₂).2 := by
  have h₁ := decimalFraction_pos d₁ e₁
  have h₂ := decimalFraction_pos d₂ e₂
  apply nearestRank_congr h₁ h₂
  have hq := decimalFraction_eq d₁ e₁
  rw [h, ← decimalFraction_eq d₂ e₂, div_eq_div_iff (by positivity) (by positivity)] at hq
  exact_mod_cast hq

theorem ofDecimal_eq (negative : Bool) (digits : Nat) (exponent : Int) :
    ofDecimal negative digits exponent =
      if digits = 0 then ofRank negative 0
      else if 310 < exponent + (Nat.toDigits 10 digits).length then infinite negative
      else if exponent + (Nat.toDigits 10 digits).length < -330 then ofRank negative 0
      else ofRank negative (nearestRank (decimalFraction digits exponent).1
        (decimalFraction digits exponent).2) := by
  unfold ofDecimal decimalFraction ofRatio
  by_cases h : 0 ≤ exponent
  · simp only [h, if_true, Nat.pow_eq]
  · simp only [h, if_false, Nat.pow_eq]

theorem toDigits_mul_pow {n : Nat} (hn : 0 < n) (k : Nat) :
    Nat.toDigits 10 (n * 10 ^ k) = Nat.toDigits 10 n ++ List.replicate k '0' := by
  induction k with
  | zero => simp
  | succ k ih =>
    have hpos : 0 < n * 10 ^ k := Nat.mul_pos hn (Nat.pow_pos (by decide))
    have hlast := Nat.toDigits_append_toDigits (b := 10) (by decide) hpos (d := 0) (by decide)
    rw [Nat.pow_succ, ← Nat.mul_assoc, Nat.mul_comm _ 10, ← Nat.add_zero (10 * _), ← hlast, ih,
      Nat.toDigits_zero, List.append_assoc, List.replicate_succ']

/-- Zeros at the end of the digits count as powers of ten. -/
theorem ofDecimal_mul_pow (negative : Bool) (digits k : Nat) (exponent : Int) :
    ofDecimal negative (digits * 10 ^ k) exponent = ofDecimal negative digits (exponent + k) := by
  by_cases hz : digits = 0
  · simp [ofDecimal, hz]
  have hlength : ((Nat.toDigits 10 (digits * 10 ^ k)).length : Int) =
      (Nat.toDigits 10 digits).length + k := by
    simp [toDigits_mul_pow (Nat.pos_of_ne_zero hz)]
  have hvalue : ((digits * 10 ^ k : Nat) : ℚ) * (10 : ℚ) ^ exponent =
      digits * (10 : ℚ) ^ (exponent + k) := by
    rw [zpow_add₀ (by norm_num), zpow_natCast]
    push_cast
    ring
  have hreach : exponent + ((Nat.toDigits 10 digits).length + k : Int) =
      exponent + k + (Nat.toDigits 10 digits).length := by ring
  simp only [ofDecimal_eq, hlength, hreach, nearestRank_decimalFraction_congr hvalue, hz,
    Nat.mul_eq_zero, Nat.pow_eq_zero, false_or, false_and, OfNat.ofNat_ne_zero]

theorem neg_ofRank (negative : Bool) (rank : Nat) :
    (ofRank negative rank).neg = ofRank (!negative) rank := by
  unfold ofRank
  split <;> rfl

theorem neg_ofDecimal (negative : Bool) (digits : Nat) (exponent : Int) :
    (ofDecimal negative digits exponent).neg = ofDecimal (!negative) digits exponent := by
  simp only [ofDecimal_eq]
  split_ifs
  · exact neg_ofRank _ _
  · rfl
  · exact neg_ofRank _ _
  · exact neg_ofRank _ _

/-- Whether a decimal reads as a rank does not depend on the sign. -/
theorem ofDecimal_eq_ofRank {digits rank : Nat} {exponent : Int} (negative : Bool)
    (h : ofDecimal false digits exponent = ofRank false rank) :
    ofDecimal negative digits exponent = ofRank negative rank := by
  cases negative with
  | false => exact h
  | true =>
    have hneg := congrArg neg h
    rwa [neg_ofDecimal, neg_ofRank] at hneg

/-- A decimal that is exactly a magnitude, and not far out of range, reads as its rank. -/
theorem ofDecimal_exact {digits rank : Nat} {exponent : Int} (hpos : 0 < digits)
    (hvalue : (digits : ℚ) * (10 : ℚ) ^ exponent * unit = magnitude rank)
    (hlo : -330 ≤ exponent + (Nat.toDigits 10 digits).length)
    (hhi : exponent + (Nat.toDigits 10 digits).length ≤ 310) :
    ofDecimal false digits exponent = ofRank false rank := by
  have hden := decimalFraction_pos digits exponent
  have hcross : (decimalFraction digits exponent).1 * 1 =
      magnitude rank * (decimalFraction digits exponent).2 := by
    have hq := decimalFraction_eq digits exponent
    rw [hvalue, div_eq_iff (by positivity)] at hq
    rw [Nat.mul_one]
    exact_mod_cast hq
  have hrank := (nearestRank_congr hden Nat.one_pos hcross).trans (nearestRank_magnitude rank)
  rw [ofDecimal_eq, if_neg hpos.ne', if_neg (not_lt.mpr hhi), if_neg (not_lt.mpr hlo), hrank]

end Binary64

end BenchReport
