import BenchReport.Number.Arithmetic
import Mathlib.Tactic.SplitIfs

/-!
The order of doubles, with NaN outside of it, and what a fold keeps that chooses by this order.
-/
namespace BenchReport.Binary64

variable {x y z : Binary64}

theorem eq_nan (h : x.isNaN = true) : x = nan := by
  cases x with
  | nan => rfl
  | infinite negative => cases h
  | finite negative rank => cases h

theorem le_iff : x.le y = true ↔ x.isNaN = false ∧ y.isNaN = false ∧ x.key ≤ y.key := by
  simp [le, and_assoc]

theorem lt_iff : x.lt y = true ↔ x.isNaN = false ∧ y.isNaN = false ∧ x.key < y.key := by
  simp [lt, and_assoc]

theorem le_refl (h : x.isNaN = false) : x.le x = true := le_iff.mpr ⟨h, h, Int.le_refl _⟩

theorem le_trans (hxy : x.le y = true) (hyz : y.le z = true) : x.le z = true := by
  obtain ⟨hx, -, hkey⟩ := le_iff.mp hxy
  obtain ⟨-, hz, hkey'⟩ := le_iff.mp hyz
  exact le_iff.mpr ⟨hx, hz, Int.le_trans hkey hkey'⟩

theorem le_of_lt (h : x.lt y = true) : x.le y = true := by
  obtain ⟨hx, hy, hkey⟩ := lt_iff.mp h
  exact le_iff.mpr ⟨hx, hy, Int.le_of_lt hkey⟩

theorem le_of_not_lt (hx : x.isNaN = false) (hy : y.isNaN = false) (h : ¬y.lt x = true) :
    x.le y = true := by
  refine le_iff.mpr ⟨hx, hy, Int.not_lt.mp fun hkey => h ?_⟩
  exact lt_iff.mpr ⟨hy, hx, hkey⟩

theorem key_finite (negative : Bool) (rank : Fin rankCount) :
    (infinite true).key < (finite negative rank).key ∧
      (finite negative rank).key < (infinite false).key := by
  have hrank := rank.isLt
  have hbound : (infinite true).key = -rankCount ∧ (infinite false).key = rankCount := ⟨rfl, rfl⟩
  rw [hbound.1, hbound.2]
  cases negative with
  | false =>
    have hkey : (finite false rank).key = rank.val := rfl
    omega
  | true =>
    have hkey : (finite true rank).key = -rank.val := rfl
    omega

/-- Nothing else is above infinity. -/
theorem eq_infinite_of_le (h : (infinite false).le x = true) : x = infinite false := by
  obtain ⟨-, hx, hkey⟩ := le_iff.mp h
  cases x with
  | nan => cases hx
  | infinite negative =>
    cases negative with
    | false => rfl
    | true => exact absurd hkey (by decide)
  | finite negative rank => exact absurd hkey (Int.not_le.mpr (key_finite negative rank).2)

/-- Nothing else is below negative infinity. -/
theorem eq_infinite_of_ge (h : x.le (infinite true) = true) : x = infinite true := by
  obtain ⟨hx, -, hkey⟩ := le_iff.mp h
  cases x with
  | nan => cases hx
  | infinite negative =>
    cases negative with
    | true => rfl
    | false => exact absurd hkey (by decide)
  | finite negative rank => exact absurd hkey (Int.not_le.mpr (key_finite negative rank).1)

/-- A way to choose between two numbers: NaN gives way, and the one that is taken stands before the
other in an order. -/
structure Choice (choose : Binary64 → Binary64 → Binary64)
    (before : Binary64 → Binary64 → Bool) : Prop where
  trans {x y z : Binary64} (hxy : before x y = true) (hyz : before y z = true) : before x z = true
  nan_right (x : Binary64) : choose x nan = x
  eq_or (x y : Binary64) : choose x y = x ∨ choose x y = y
  left {x : Binary64} (y : Binary64) (h : x.isNaN = false) : before (choose x y) x = true
  right (x : Binary64) {y : Binary64} (h : y.isNaN = false) : before (choose x y) y = true

namespace Choice

/-- The second number is taken only if it stands strictly before the first. -/
theorem of_strict {choose : Binary64 → Binary64 → Binary64}
    {strict before : Binary64 → Binary64 → Bool}
    (choose_eq : ∀ x y, choose x y =
      if x.isNaN then y else if y.isNaN then x else if strict y x then y else x)
    (refl : ∀ x, x.isNaN = false → before x x = true)
    (trans : ∀ x y z, before x y = true → before y z = true → before x z = true)
    (of_strict : ∀ x y, strict y x = true → before y x = true)
    (of_not_strict : ∀ x y, x.isNaN = false → y.isNaN = false → ¬strict y x = true →
      before x y = true) : Choice choose before where
  trans := trans _ _ _
  nan_right x := by
    rw [choose_eq]
    split
    case isTrue h => exact (eq_nan h).symm
    case isFalse => rfl
  eq_or x y := by
    rw [choose_eq]
    split_ifs
    · exact .inr rfl
    · exact .inl rfl
    · exact .inr rfl
    · exact .inl rfl
  left {x} y h := by
    rw [choose_eq, if_neg (Bool.eq_false_iff.mp h)]
    split_ifs with hy hstrict
    · exact refl x h
    · exact of_strict x y hstrict
    · exact refl x h
  right x {y} h := by
    rw [choose_eq, if_neg (Bool.eq_false_iff.mp h : ¬y.isNaN = true)]
    split_ifs with hx hstrict
    · exact refl y h
    · exact refl y h
    · exact of_not_strict x y (Bool.eq_false_iff.mpr hx) h hstrict

variable {choose : Binary64 → Binary64 → Binary64} {before : Binary64 → Binary64 → Bool}
  {start : Binary64} {values : List Binary64}

theorem isNaN_choose (c : Choice choose before) (h : x.isNaN = false) (y : Binary64) :
    (choose x y).isNaN = false := by
  cases hy : y.isNaN with
  | true => rw [eq_nan hy, c.nan_right, h]
  | false =>
    rcases c.eq_or x y with hchoose | hchoose
    · rw [hchoose, h]
    · rw [hchoose, hy]

/-- A fold keeps its start or one of the values. -/
theorem foldl_mem (c : Choice choose before) (start : Binary64) (values : List Binary64) :
    values.foldl choose start ∈ start :: values := by
  induction values generalizing start with
  | nil => exact List.mem_singleton_self start
  | cons v rest ih =>
    rw [List.foldl_cons]
    rcases List.mem_cons.mp (ih (choose start v)) with hkept | hlater
    · rw [hkept]
      rcases c.eq_or start v with hchoose | hchoose
      · rw [hchoose]
        exact List.mem_cons_self
      · rw [hchoose]
        exact List.mem_cons_of_mem _ List.mem_cons_self
    · exact List.mem_cons_of_mem _ (List.mem_cons_of_mem _ hlater)

/-- What a fold keeps stands before its start and before every number among the values. -/
theorem foldl_before (c : Choice choose before) (hstart : start.isNaN = false) :
    before (values.foldl choose start) start = true ∧
      ∀ v ∈ values, v.isNaN = false → before (values.foldl choose start) v = true := by
  induction values generalizing start with
  | nil =>
    have hself := c.left nan hstart
    rw [c.nan_right] at hself
    exact ⟨hself, fun v hv => absurd hv List.not_mem_nil⟩
  | cons v rest ih =>
    obtain ⟨hchosen, hrest⟩ := ih (c.isNaN_choose hstart v)
    refine ⟨c.trans hchosen (c.left v hstart), fun w hw hnumber => ?_⟩
    rcases List.mem_cons.mp hw with rfl | hw
    · exact c.trans hchosen (c.right start hnumber)
    · exact hrest w hw hnumber

/-- Without a number among the values a fold keeps its start. -/
theorem foldl_nan (c : Choice choose before) (h : ∀ v ∈ values, v.isNaN = true) :
    values.foldl choose start = start := by
  induction values with
  | nil => rfl
  | cons v rest ih =>
    rw [List.foldl_cons, eq_nan (h v List.mem_cons_self), c.nan_right]
    exact ih fun w hw => h w (List.mem_cons_of_mem _ hw)

/-- A fold from the last number of all keeps one of the values once there is a number. -/
theorem foldl_mem_of_number (c : Choice choose before) (hstart : start.isNaN = false)
    (last : ∀ v, before start v = true → v = start) (h : ∃ v ∈ values, v.isNaN = false) :
    values.foldl choose start ∈ values := by
  obtain ⟨v, hv, hnumber⟩ := h
  rcases List.mem_cons.mp (c.foldl_mem start values) with hkept | hmem
  · have hbefore := (c.foldl_before hstart).2 v hv hnumber
    rw [hkept] at hbefore
    rw [hkept, ← last v hbefore]
    exact hv
  · exact hmem

end Choice

theorem choice_min : Choice min le :=
  .of_strict (fun _ _ => rfl) (fun _ => le_refl) (fun _ _ _ => le_trans) (fun _ _ => le_of_lt)
    fun _ _ => le_of_not_lt

theorem choice_max : Choice max fun x y => y.le x :=
  .of_strict (fun _ _ => rfl) (fun _ => le_refl) (fun _ _ _ hxy hyz => le_trans hyz hxy)
    (fun _ _ => le_of_lt) fun _ _ hx hy => le_of_not_lt hy hx

end BenchReport.Binary64
