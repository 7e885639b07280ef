import BenchReport.Number.FixedPoint
import BenchReport.Proofs.Number.Order
import BenchReport.Proofs.Number.Rounding
import Mathlib.Algebra.Order.Field.Rat
import Mathlib.Data.List.TakeWhile
import Mathlib.Order.WithBot

/-!
What a text with a fixed count of decimals says, read as an exact decimal. Every number is written
as the rounded value, and numbers in order are written as decimals in order.
-/
namespace BenchReport

/-- An exact quantity, or one of the infinities. -/
abbrev ExtendedRat := WithBot (WithTop ℚ)

namespace Numeral

/-- The value of a numeral, with nothing rounded. -/
def exact (n : Numeral) : ℚ :=
  (if n.negative then -1 else 1) * digitsValue n.digits * 10 ^ n.exponent

/-- Digits on both sides of a point. -/
theorem readUnsigned?_point (negative : Bool) {whole fraction : List Char} (hne : whole ≠ [])
    (hwhole : ∀ c ∈ whole, c.isDigit = true) (hfraction : ∀ c ∈ fraction, c.isDigit = true) :
    readUnsigned? negative (whole ++ '.' :: fraction) =
      some ⟨negative, whole ++ fraction, -fraction.length⟩ := by
  have htake : (whole ++ '.' :: fraction).takeWhile Char.isDigit = whole := by
    rw [List.takeWhile_append_of_pos hwhole, List.takeWhile_cons_of_neg (by decide),
      List.append_nil]
  have hdrop : (whole ++ '.' :: fraction).dropWhile Char.isDigit = '.' :: fraction := by
    rw [List.dropWhile_append_of_pos hwhole, List.dropWhile_cons_of_neg (by decide)]
  have hfractionTake : fraction.takeWhile Char.isDigit = fraction :=
    List.takeWhile_eq_self_iff.mpr hfraction
  have hfractionDrop : fraction.dropWhile Char.isDigit = [] :=
    List.dropWhile_eq_nil_iff.mpr hfraction
  simp [readUnsigned?, htake, hdrop, hfractionTake, hfractionDrop, hne, readExponent?]

end Numeral

/-- The exact value of a text without its sign. -/
def exactUnsigned? (negative : Bool) (text : List Char) : Option ExtendedRat :=
  if text = "inf".toList then some (if negative then ⊥ else ⊤)
  else (Numeral.readUnsigned? negative text).map fun n => ((n.exact : WithTop ℚ) : ExtendedRat)

/-- The exact value of a decimal text: a numeral, or `inf`, after an optional minus sign. Any other
text has none. -/
def exactValue? : List Char → Option ExtendedRat
  | '-' :: rest => exactUnsigned? true rest
  | text => exactUnsigned? false text

namespace Binary64

variable {x y : Binary64}

/-- A magnitude in units of the last of so many decimals, rounded to a whole number of them. -/
def decimalUnits (places rank : Nat) : Nat :=
  roundHalfEven (magnitude rank * 10 ^ places) unit

theorem decimalUnits_mono (places : Nat) : Monotone (decimalUnits places) := by
  intro j k h
  apply roundHalfEven_mono
  exact Nat.mul_le_mul_right _ (magnitude_mono h)

@[simp] theorem decimalUnits_zero (places : Nat) : decimalUnits places 0 = 0 := by
  simp [decimalUnits]

theorem fixedPoint_finite (places : Nat) (negative : Bool) (rank : Fin rankCount) :
    (finite negative rank).fixedPoint places =
      if negative then '-' :: withPoint places (Nat.toDigits 10 (decimalUnits places rank))
      else withPoint places (Nat.toDigits 10 (decimalUnits places rank)) := by
  simp only [fixedPoint, decimalUnits, Nat.pow_eq]

/-- The units of a magnitude under a sign. -/
def signedUnits (places : Nat) (negative : Bool) (rank : Nat) : ℤ :=
  if negative then -decimalUnits places rank else decimalUnits places rank

theorem signedUnits_cast (places : Nat) (negative : Bool) (rank : Nat) :
    (signedUnits places negative rank : ℚ) =
      (if negative then -1 else 1) * decimalUnits places rank := by
  unfold signedUnits
  cases negative with
  | false => simp only [Bool.false_eq_true, if_false, Int.cast_natCast, one_mul]
  | true => simp only [if_true, Int.cast_neg, Int.cast_natCast, neg_one_mul]

/-- A double rounded to so many decimals; NaN has no value. -/
def rounded? (places : Nat) : Binary64 → Option ExtendedRat
  | nan => none
  | infinite negative => some (if negative then ⊥ else ⊤)
  | finite negative rank =>
    some (((signedUnits places negative rank / 10 ^ places : ℚ) : WithTop ℚ) : ExtendedRat)

theorem exists_rounded? (places : Nat) (h : x.isNaN = false) : ∃ p, x.rounded? places = some p := by
  cases x with
  | nan => cases h
  | infinite negative => exact ⟨_, rfl⟩
  | finite negative rank => exact ⟨_, rfl⟩

theorem signedUnits_le (places : Nat) {a b : Bool} {j k : Fin rankCount}
    (h : (finite a j).key ≤ (finite b k).key) :
    signedUnits places a j ≤ signedUnits places b k := by
  cases a with
  | false =>
    cases b with
    | false =>
      have hrank : j.val ≤ k.val := Int.ofNat_le.mp h
      exact Int.ofNat_le.mpr (decimalUnits_mono places hrank)
    | true =>
      -- A number without a sign is below one with a sign only if both are zero.
      have hzero : j.val = 0 ∧ k.val = 0 := by
        simp only [key, Bool.false_eq_true, if_false, if_true] at h
        omega
      simp [signedUnits, hzero.1, hzero.2]
  | true =>
    cases b with
    | false =>
      simp only [signedUnits, Bool.false_eq_true, if_false, if_true]
      omega
    | true =>
      have hrank : k.val ≤ j.val := Int.ofNat_le.mp (Int.neg_le_neg_iff.mp h)
      have hunits := decimalUnits_mono places hrank
      simp only [signedUnits, if_true]
      omega

/-! ## Texts with a point -/

/-- The point divides the digits of a number, after zeros where they are too few; so many of them
stand behind it. -/
theorem withPoint_toDigits (places n : Nat) :
    ∃ whole fraction, withPoint places (Nat.toDigits 10 n) = whole ++ '.' :: fraction ∧
      whole ≠ [] ∧ fraction.length = places ∧
      (∀ c ∈ whole ++ fraction, c.isDigit = true) ∧
      Numeral.digitsValue (whole ++ fraction) = n := by
  let padded := List.replicate (places + 1 - (Nat.toDigits 10 n).length) '0' ++ Nat.toDigits 10 n
  have hlength : places < padded.length := by
    simp only [padded, List.length_append, List.length_replicate]
    omega
  refine ⟨padded.take (padded.length - places), padded.drop (padded.length - places), rfl, ?_, ?_,
    ?_, ?_⟩
  · intro hempty
    have htake := congrArg List.length hempty
    simp only [List.length_take, List.length_nil] at htake
    omega
  · rw [List.length_drop]
    omega
  · rw [List.take_append_drop]
    intro c hc
    rcases List.mem_append.mp hc with hzero | hdigit
    · rw [List.eq_of_mem_replicate hzero]
      decide
    · exact Nat.isDigit_of_mem_toDigits (by decide) (by decide) hdigit
  · rw [List.take_append_drop, Numeral.digitsValue, Nat.ofDigitChars_append,
      Nat.ofDigitChars_replicate_zero, Nat.mul_zero, Nat.ofDigitChars_ten_toDigits]

theorem not_mem_withPoint {c : Char} (hdigit : c.isDigit = false) (hpoint : c ≠ '.')
    (places n : Nat) : c ∉ withPoint places (Nat.toDigits 10 n) := by
  obtain ⟨whole, fraction, htext, -, -, hdigits, -⟩ := withPoint_toDigits places n
  have hall : c ∉ whole ++ fraction := by
    intro hc
    rw [hdigits c hc] at hdigit
    cases hdigit
  rw [htext]
  simpa [hpoint] using hall

theorem exactUnsigned?_withPoint (negative : Bool) (places n : Nat) :
    exactUnsigned? negative (withPoint places (Nat.toDigits 10 n)) =
      some ((((if negative then -1 else 1) * n / 10 ^ places : ℚ) : WithTop ℚ) : ExtendedRat) := by
  have hword : withPoint places (Nat.toDigits 10 n) ≠ "inf".toList := by
    intro h
    have hletter : 'i' ∉ withPoint places (Nat.toDigits 10 n) :=
      not_mem_withPoint (by decide) (by decide) places n
    rw [h] at hletter
    exact hletter (by decide)
  obtain ⟨whole, fraction, htext, hne, hplaces, hdigits, hvalue⟩ := withPoint_toDigits places n
  obtain ⟨hwhole, hfraction⟩ := List.forall_mem_append.mp hdigits
  rw [exactUnsigned?, if_neg hword, htext,
    Numeral.readUnsigned?_point negative hne hwhole hfraction, Option.map_some, Numeral.exact,
    hvalue, hplaces, zpow_neg, zpow_natCast, div_eq_mul_inv]

theorem exactValue?_withPoint (places n : Nat) :
    exactValue? (withPoint places (Nat.toDigits 10 n)) =
      exactUnsigned? false (withPoint places (Nat.toDigits 10 n)) := by
  have hminus : '-' ∉ withPoint places (Nat.toDigits 10 n) :=
    not_mem_withPoint (by decide) (by decide) places n
  unfold exactValue?
  split
  case h_1 rest heq =>
    rw [heq] at hminus
    exact absurd List.mem_cons_self hminus
  case h_2 => rfl

/-! ## What a number is written as -/

/-- A text with so many decimals says exactly the rounded value. -/
theorem exactValue?_fixedPoint (places : Nat) (x : Binary64) :
    exactValue? (x.fixedPoint places) = x.rounded? places := by
  cases x with
  | nan => rfl
  | infinite negative => cases negative <;> rfl
  | finite negative rank =>
    rw [fixedPoint_finite, rounded?, signedUnits_cast]
    cases negative with
    | false => rw [if_neg Bool.false_ne_true, exactValue?_withPoint, exactUnsigned?_withPoint]
    | true => rw [if_pos rfl, exactValue?, exactUnsigned?_withPoint]

/-- Numbers in order are rounded to values in order. -/
theorem rounded?_le (places : Nat) (h : x.le y = true) :
    ∃ p q, x.rounded? places = some p ∧ y.rounded? places = some q ∧ p ≤ q := by
  obtain ⟨hx, hy, hkey⟩ := le_iff.mp h
  obtain ⟨p, hp⟩ := exists_rounded? places hx
  obtain ⟨q, hq⟩ := exists_rounded? places hy
  refine ⟨p, q, hp, hq, ?_⟩
  cases x with
  | nan => cases hx
  | infinite negative =>
    cases negative with
    | true =>
      cases hp
      exact bot_le
    | false =>
      rw [eq_infinite_of_le h, hp] at hq
      exact (Option.some.inj hq).le
  | finite a j =>
    cases y with
    | nan => cases hy
    | infinite negative =>
      cases negative with
      | true => cases eq_infinite_of_ge h
      | false =>
        cases hq
        exact le_top
    | finite b k =>
      cases hp
      cases hq
      have hunits : (signedUnits places a j : ℚ) ≤ signedUnits places b k := by
        exact_mod_cast signedUnits_le places hkey
      apply WithBot.coe_le_coe.mpr
      apply WithTop.coe_le_coe.mpr
      apply div_le_div_of_nonneg_right hunits
      positivity

end Binary64

end BenchReport
