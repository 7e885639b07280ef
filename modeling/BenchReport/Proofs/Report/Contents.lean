import BenchReport.Proofs.Report.Grouping
import BenchReport.Report.View
import Mathlib.Data.List.Basic
import Mathlib.Data.List.Forall2

/-!
The links of the table of contents. An anchor keeps some characters of a name and folds them, so
that links may clash although no two groups have one name; which names clash is told here.
-/
namespace BenchReport.Report

/-- Characters that an anchor keeps in some form. -/
def isKept (c : Char) : Bool := c == ' ' || Text.isAlphanumeric c || c == '-' || c == '_'

/-- What is kept of a character: a space becomes a dash, and ASCII letters are lowered. -/
def fold (c : Char) : Char := if c = ' ' then '-' else c.toLower

/-- Characters that an anchor does not tell apart: they are the same but for the case of an ASCII
letter, or each is a space or a dash. -/
def Folds (c d : Char) : Prop := c.toLower = d.toLower ∨ c ∈ [' ', '-'] ∧ d ∈ [' ', '-']

/-- Names of which the kept characters agree one by one, up to case and to spaces for dashes. -/
def Alike (name other : String) : Prop :=
  List.Forall₂ Folds (name.toList.filter isKept) (other.toList.filter isKept)

theorem anchorChar?_eq (c : Char) : anchorChar? c = if isKept c then some (fold c) else none := by
  unfold anchorChar? isKept fold
  by_cases hspace : c = ' ' <;> simp [hspace]

/-- Only small letters come from lowering another character. -/
theorem eq_of_toLower_eq {c d : Char} (hd : d.isLower = false) (h : c.toLower = d) : c = d := by
  unfold Char.toLower at h
  split at h
  · rename_i hupper
    have hleast := UInt32.le_iff_toNat_le.mp hupper.1
    have hgreatest := UInt32.le_iff_toNat_le.mp hupper.2
    have hrange : (decide ('a'.val ≤ d.val) && decide (d.val ≤ 'z'.val)) = false := hd
    subst h
    simp only [UInt32.le_iff_toNat_le, UInt32.toNat_add] at hrange
    simp at hleast hgreatest hrange
    omega
  · exact h

theorem fold_of_ne {c : Char} (h : c ≠ ' ') : fold c = c.toLower := if_neg h

theorem fold_eq_dash_iff (c : Char) : fold c = '-' ↔ c ∈ [' ', '-'] := by
  constructor
  · intro h
    by_cases hspace : c = ' '
    · simp [hspace]
    · rw [fold_of_ne hspace] at h
      simp [eq_of_toLower_eq (by decide) h]
  · intro h
    rcases List.mem_pair.mp h with rfl | rfl <;> rfl

theorem fold_eq_fold_iff (c d : Char) : fold c = fold d ↔ Folds c d := by
  constructor
  · intro h
    by_cases hdash : c ∈ [' ', '-']
    · have hd : fold d = '-' := h ▸ (fold_eq_dash_iff c).mpr hdash
      exact .inr ⟨hdash, (fold_eq_dash_iff d).mp hd⟩
    · have hd : d ∉ [' ', '-'] := fun hd =>
        hdash ((fold_eq_dash_iff c).mp (h.trans ((fold_eq_dash_iff d).mpr hd)))
      simp only [List.mem_pair, not_or] at hdash hd
      rw [fold_of_ne hdash.1, fold_of_ne hd.1] at h
      exact .inl h
  · rintro (hcase | ⟨hc, hd⟩)
    · by_cases hc : c = ' '
      · subst hc
        rw [eq_of_toLower_eq (by decide) hcase.symm]
        rfl
      by_cases hd : d = ' '
      · subst hd
        rw [eq_of_toLower_eq (by decide) hcase]
        rfl
      rw [fold_of_ne hc, fold_of_ne hd, hcase]
    · rw [(fold_eq_dash_iff c).mpr hc, (fold_eq_dash_iff d).mpr hd]

theorem toList_anchor (name : String) :
    (anchor name).toList = (name.toList.filter isKept).map fold := by
  rw [anchor, String.toList_ofList]
  induction name.toList with
  | nil => rfl
  | cons c rest ih =>
    have hchar := anchorChar?_eq c
    cases hkept : isKept c <;> simp [hchar, hkept, ih]

theorem anchor_eq_anchor_iff (name other : String) :
    anchor name = anchor other ↔ Alike name other := by
  rw [← String.toList_inj, toList_anchor, toList_anchor, ← List.forall₂_eq_eq_eq,
    List.forall₂_map_left_iff, List.forall₂_map_right_iff]
  simp only [fold_eq_fold_iff]
  rfl

theorem anchor_eq_empty_iff (name : String) :
    anchor name = "" ↔ name.toList.any isKept = false := by
  rw [← String.toList_inj, toList_anchor]
  simp

theorem nodup_names (runs : List Run) : ((Group.ofRuns runs).map Group.name).Nodup := by
  rw [Group.ofRuns_eq_gather, Group.names_gather]
  exact Group.nodup_eraseDups _

theorem map_anchor (groups : List Group) :
    (groups.map fun group => (GroupView.ofGroup group).anchor) =
      (groups.map Group.name).map anchor := by
  rw [List.map_map]
  rfl

/-- Two groups get one link exactly if their names are alike, and groups have different names. So
their links are different exactly if no two of the names are alike; and one leads nowhere exactly if
a name has no character that anchors keep. -/
theorem anchors_ofRuns (runs : List Run) :
    let names := (Group.ofRuns runs).map Group.name
    let anchors := (Group.ofRuns runs).map fun group => (GroupView.ofGroup group).anchor
    (∀ group other : Group, (GroupView.ofGroup group).anchor = (GroupView.ofGroup other).anchor ↔
        Alike group.name other.name) ∧
      names.Nodup ∧ (anchors.Nodup ↔ names.Pairwise fun name other => ¬Alike name other) ∧
      ("" ∈ anchors ↔ ∃ name ∈ names, name.toList.any isKept = false) := by
  intro names anchors
  have hanchors : anchors = names.map anchor := map_anchor _
  refine ⟨fun group other => anchor_eq_anchor_iff _ _, nodup_names runs, ?_, ?_⟩
  · rw [hanchors, List.Nodup, List.pairwise_map]
    simp only [ne_eq, anchor_eq_anchor_iff]
  · rw [hanchors, List.mem_map]
    simp only [anchor_eq_empty_iff]

/-- Names that differ in case and in the sign between words, and one of signs alone. -/
def clashingRuns : List Run :=
  [⟨"out/a", "tsdb",
    [⟨"push rate", "ops", [], []⟩, ⟨"Push-Rate", "ops", [], []⟩, ⟨"!", "ops", [], []⟩]⟩]

theorem anchors_clash :
    let anchors := (Group.ofRuns clashingRuns).map fun group => (GroupView.ofGroup group).anchor
    ((Group.ofRuns clashingRuns).map Group.name).Nodup ∧
      anchors = ["push-rate", "push-rate", ""] ∧ ¬(anchors.Nodup ∧ "" ∉ anchors) := by
  decide

end BenchReport.Report
