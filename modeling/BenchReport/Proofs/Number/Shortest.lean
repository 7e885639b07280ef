import BenchReport.Number.Shortest
import BenchReport.Proofs.Number.Rounding
import Mathlib.Data.List.TakeWhile
import Mathlib.Tactic.IntervalCases

/-! The shortest decimal of a double reads back to it. -/
namespace BenchReport

/-- Digits with an exponent at the last of them. -/
def Decimal.numeral (negative : Bool) (d : Decimal) : Numeral :=
  ⟨negative, d.digits, d.leading + 1 - d.digits.length⟩

/-- A decimal has digits, and does not begin with zero. -/
structure Decimal.WellFormed (d : Decimal) : Prop where
  digit : ∀ c ∈ d.digits, c.isDigit = true
  leads : ∃ c rest, d.digits = c :: rest ∧ c ≠ '0'

theorem toDigits_leads {n : Nat} (hn : 0 < n) :
    ∃ c rest, Nat.toDigits 10 n = c :: rest ∧ c ≠ '0' := by
  induction n using Nat.strongRecOn with
  | ind n ih =>
    by_cases h : n < 10
    · refine ⟨n.digitChar, [], Nat.toDigits_of_lt_base h, ?_⟩
      interval_cases n <;> decide
    · obtain ⟨c, rest, heq, hc⟩ := ih (n / 10) (by omega) (by omega)
      refine ⟨c, rest ++ [(n % 10).digitChar], ?_, hc⟩
      rw [Nat.toDigits_of_base_le (by decide) (by omega), heq, List.cons_append]

namespace Text

theorem dropEndWhile_append_replicate (c : Char) (text : List Char) :
    ∃ k, dropEndWhile (· == c) text ++ List.replicate k c = text := by
  let zeros := text.reverse.takeWhile (· == c)
  have hzeros : zeros = List.replicate zeros.length c :=
    List.eq_replicate_of_mem fun x hx => by simpa using List.mem_takeWhile_imp hx
  refine ⟨zeros.length, ?_⟩
  have hsplit := List.takeWhile_append_dropWhile (p := (· == c)) (l := text.reverse)
  calc dropEndWhile (· == c) text ++ List.replicate zeros.length c
      = (zeros ++ text.reverse.dropWhile (· == c)).reverse := by
        rw [List.reverse_append, dropEndWhile, hzeros]
        simp
    _ = text := by rw [hsplit, List.reverse_reverse]

theorem dropEndWhile_cons {inClass : Char → Bool} {c : Char} (h : inClass c = false)
    (text : List Char) : dropEndWhile inClass (c :: text) = c :: dropEndWhile inClass text := by
  unfold dropEndWhile
  rw [List.reverse_cons, List.dropWhile_append]
  split
  case isTrue he => simp [List.isEmpty_iff.mp he, h]
  case isFalse => simp

end Text

namespace Decimal

theorem ofDigits_wellFormed {digits : Nat} (h : 0 < digits) (power : Int) :
    (ofDigits digits power).WellFormed := by
  obtain ⟨k, hk⟩ := Text.dropEndWhile_append_replicate '0' (Nat.toDigits 10 digits)
  refine ⟨fun c hc => ?_, ?_⟩
  · have : c ∈ Nat.toDigits 10 digits := hk ▸ List.mem_append_left _ hc
    exact Nat.isDigit_of_mem_toDigits (by decide) (by decide) this
  · obtain ⟨c, rest, heq, hc⟩ := toDigits_leads h
    refine ⟨c, Text.dropEndWhile (· == '0') rest, ?_, hc⟩
    rw [ofDigits, heq, Text.dropEndWhile_cons (by simpa using hc)]

/-- Dropping zeros at the end changes the exponent but not the value. -/
theorem ofDigits_value (negative : Bool) (digits : Nat) (power : Int) :
    ((ofDigits digits power).numeral negative).value =
      Binary64.ofDecimal negative digits power := by
  obtain ⟨k, hk⟩ := Text.dropEndWhile_append_replicate '0' (Nat.toDigits 10 digits)
  have hlength := congrArg List.length hk
  rw [List.length_append, List.length_replicate] at hlength
  have hdigits : digits = Numeral.digitsValue (ofDigits digits power).digits * 10 ^ k := by
    have hvalue := Nat.ofDigitChars_ten_toDigits (n := digits)
    rw [← hk, Nat.ofDigitChars_append, Nat.ofDigitChars_replicate_zero] at hvalue
    rw [Nat.mul_comm]
    exact hvalue.symm
  have hexponent : (ofDigits digits power).leading + 1 - (ofDigits digits power).digits.length =
      power + k := by
    simp only [ofDigits]
    omega
  conv_rhs => rw [hdigits, Binary64.ofDecimal_mul_pow, ← hexponent]
  rfl

theorem onGrid?_readsBack {rank num den digits : Nat} {power : Int}
    (h : onGrid? rank num den power = some digits) :
    Binary64.ofDecimal false digits power = Binary64.ofRank false rank := by
  simp only [onGrid?, beq_iff_eq] at h
  split at h
  case isTrue hbelow =>
    split at h
    case isTrue habove =>
      obtain rfl := Option.some.inj h
      rcases roundHalfEven_eq_or (scaled num den power).1 (scaled num den power).2 with hr | hr
      · rw [hr]
        exact hbelow
      · rw [hr]
        exact habove
    case isFalse =>
      obtain rfl := Option.some.inj h
      exact hbelow
  case isFalse =>
    split at h
    case isTrue habove =>
      obtain rfl := Option.some.inj h
      exact habove
    case isFalse => cases h

/-- A magnitude of a finite double lies below the power of two at which they end. -/
theorem magnitude_lt {rank : Nat} (h : rank < Binary64.rankCount) :
    Binary64.magnitude rank < 2 ^ 1024 * Binary64.unit := by
  have hrank : rank < 2047 * 2 ^ 52 := h
  by_cases hs : rank < 2 ^ 53
  · rw [Binary64.magnitude_of_lt hs]
    exact hs.trans_le (by decide +kernel)
  · obtain ⟨m, -, hm, -, hmag⟩ := Binary64.magnitude_significand (Nat.not_lt.mp hs)
    have hbinade : Binary64.binade rank ≤ 2045 := by
      simp only [Binary64.binade, Nat.pow_eq]
      omega
    calc Binary64.magnitude rank = m * 2 ^ Binary64.binade rank := hmag
      _ < 2 ^ 53 * 2 ^ Binary64.binade rank :=
        Nat.mul_lt_mul_of_pos_right hm (Nat.two_pow_pos _)
      _ ≤ 2 ^ 53 * 2 ^ 2045 :=
        Nat.mul_le_mul_left _ (Nat.pow_le_pow_right (by decide) hbinade)
      _ = 2 ^ 1024 * Binary64.unit := by decide +kernel

theorem magnitude_pos {rank : Nat} (h : 0 < rank) : 0 < Binary64.magnitude rank := by
  by_cases hs : rank < 2 ^ 53
  · rwa [Binary64.magnitude_of_lt hs]
  · obtain ⟨m, hm, -, -, hmag⟩ := Binary64.magnitude_significand (Nat.not_lt.mp hs)
    rw [hmag]
    exact Nat.mul_pos (by omega) (Nat.two_pow_pos _)

/-- All digits of the exact value, of which there are between 751 and 1383, read back. -/
theorem exact_readsBack {rank : Nat} (hpos : 0 < rank) (hrank : rank < Binary64.rankCount) :
    Binary64.ofDecimal false (Binary64.magnitude rank * tenths) (-1074) =
      Binary64.ofRank false rank := by
  have hmag := magnitude_pos hpos
  have htenths : 0 < tenths := by decide +kernel
  have hlo : ¬ (Nat.toDigits 10 (Binary64.magnitude rank * tenths)).length ≤ 750 := by
    rw [Nat.length_toDigits_le_iff (by decide) (by decide), Nat.not_lt]
    calc 10 ^ 750 ≤ 1 * tenths := by decide +kernel
      _ ≤ Binary64.magnitude rank * tenths := Nat.mul_le_mul_right _ hmag
  have hhi : (Nat.toDigits 10 (Binary64.magnitude rank * tenths)).length ≤ 1383 := by
    rw [Nat.length_toDigits_le_iff (by decide) (by decide)]
    calc Binary64.magnitude rank * tenths
        < 2 ^ 1024 * Binary64.unit * tenths :=
          Nat.mul_lt_mul_of_pos_right (magnitude_lt hrank) htenths
      _ ≤ 10 ^ 1383 := by decide +kernel
  refine Binary64.ofDecimal_exact (Nat.mul_pos hmag htenths) ?_ (by omega) (by omega)
  have hunit : (tenths : ℚ) * Binary64.unit = (10 : ℚ) ^ (1074 : Nat) := by
    have hnat : tenths * Binary64.unit = 10 ^ 1074 := by decide +kernel
    have hcast := congrArg (Nat.cast (R := ℚ)) hnat
    rwa [Nat.cast_mul, Nat.cast_pow, Nat.cast_ofNat] at hcast
  have hpower : (10 : ℚ) ^ (-1074 : Int) = ((10 : ℚ) ^ (1074 : Nat))⁻¹ := by
    rw [show (-1074 : Int) = -((1074 : Nat) : Int) from rfl, zpow_neg, zpow_natCast]
  have hten : (10 : ℚ) ^ (1074 : Nat) ≠ 0 := pow_ne_zero _ (by norm_num)
  -- The power stays a variable, so that nothing computes its digits.
  generalize (10 : ℚ) ^ (1074 : Nat) = ten at hunit hpower hten
  rw [hpower, Nat.cast_mul]
  field_simp
  exact hunit

theorem ofRank_ne_zero {rank : Nat} (hpos : 0 < rank) (hrank : rank < Binary64.rankCount) :
    Binary64.ofRank false rank ≠ Binary64.ofRank false 0 := by
  intro h
  unfold Binary64.ofRank at h
  rw [dif_pos hrank, dif_pos (hpos.trans hrank)] at h
  injection h with _ hfin
  have hval := congrArg Fin.val hfin
  exact hpos.ne' hval

/-- Digits that read back give a decimal that does, under either sign. -/
theorem ofDigits_spec {rank digits : Nat} {power : Int} (hpos : 0 < rank)
    (hrank : rank < Binary64.rankCount)
    (h : Binary64.ofDecimal false digits power = Binary64.ofRank false rank) :
    (ofDigits digits power).WellFormed ∧
      ∀ negative, ((ofDigits digits power).numeral negative).value =
        Binary64.ofRank negative rank := by
  have hdigits : digits ≠ 0 := by
    intro hz
    rw [hz, Binary64.ofDecimal_eq, if_pos rfl] at h
    exact ofRank_ne_zero hpos hrank h.symm
  refine ⟨ofDigits_wellFormed (Nat.pos_of_ne_zero hdigits) power, fun negative => ?_⟩
  rw [ofDigits_value, Binary64.ofDecimal_eq_ofRank negative h]

/-- A positive rank reads back from its shortest decimal, under either sign. -/
theorem shortest_spec {rank : Nat} (hpos : 0 < rank) (hrank : rank < Binary64.rankCount) :
    (shortest rank).WellFormed ∧
      ∀ negative, ((shortest rank).numeral negative).value = Binary64.ofRank negative rank := by
  simp only [shortest]
  cases hfound : (List.range 17).findSome?
      (attempt? rank (leadingPower (Binary64.magnitude rank) Binary64.unit)) with
  | some decimal =>
    obtain ⟨count, -, hattempt⟩ := List.exists_of_findSome?_eq_some hfound
    simp only [attempt?, Option.map_eq_some_iff] at hattempt
    obtain ⟨digits, hgrid, rfl⟩ := hattempt
    have hback := onGrid?_readsBack hgrid
    rw [Option.getD_some]
    exact ofDigits_spec hpos hrank hback
  | none =>
    rw [Option.getD_none, exact]
    exact ofDigits_spec hpos hrank (exact_readsBack hpos hrank)

end Decimal

end BenchReport
