import BenchReport.Proofs.Number.FixedPoint
import BenchReport.Proofs.Report.Extremes
import BenchReport.Proofs.Report.Grouping
import BenchReport.Report.View

/-!
The extremes that a report shows bound the values that it shows beside them. Every number is rounded
on its own before it is shown, so the texts are compared as the exact decimals that they are.
-/
namespace BenchReport.Report

/-- Both texts are decimals, and the value of the first is at most that of the second. -/
def AtMost (lower upper : String) : Prop :=
  ∃ p q, exactValue? lower.toList = some p ∧ exactValue? upper.toList = some q ∧ p ≤ q

/-- The extremes shown of a run are among the values shown, and all of these but NaN lie between
them. -/
structure RunView.Bounded (view : RunView) : Prop where
  min_mem : view.min ∈ view.values
  max_mem : view.max ∈ view.values
  min_le : ∀ text ∈ view.values, text ≠ "NaN" → AtMost view.min text
  le_max : ∀ text ∈ view.values, text ≠ "NaN" → AtMost text view.max

/-! ## Single numbers -/

@[simp] theorem toList_twoDecimals (x : Binary64) : (twoDecimals x).toList = x.fixedPoint 2 :=
  String.toList_ofList

theorem twoDecimals_of_nan {x : Binary64} (h : x.isNaN = true) : twoDecimals x = "NaN" := by
  rw [Binary64.eq_nan h]
  rfl

/-- Only NaN is shown as NaN: of every number the text is a decimal. -/
theorem twoDecimals_eq_nan_iff (x : Binary64) : twoDecimals x = "NaN" ↔ x.isNaN = true := by
  constructor
  · intro htext
    by_contra hnumber
    obtain ⟨p, hp⟩ := Binary64.exists_rounded? 2 (Bool.eq_false_iff.mpr hnumber)
    rw [← Binary64.exactValue?_fixedPoint, ← toList_twoDecimals, htext] at hp
    cases hp
  · exact twoDecimals_of_nan

theorem atMost_of_le {x y : Binary64} (h : x.le y = true) :
    AtMost (twoDecimals x) (twoDecimals y) := by
  obtain ⟨p, q, hp, hq, hle⟩ := Binary64.rounded?_le 2 h
  refine ⟨p, q, ?_, ?_, hle⟩
  · rw [toList_twoDecimals, Binary64.exactValue?_fixedPoint, hp]
  · rw [toList_twoDecimals, Binary64.exactValue?_fixedPoint, hq]

/-! ## The view of a run -/

section

variable {series : RunSeries}

theorem values_ofSeries (series : RunSeries) :
    List.Forall₂ (fun v text => text = "NaN" ↔ v.isNaN = true) series.values
      (RunView.ofSeries series).values := by
  apply List.forall₂_map_right_iff.mpr
  apply List.forall₂_same.mpr
  intro v _
  exact twoDecimals_eq_nan_iff v

theorem extremes_ofSeries {stats : Stats} (h : series.stats = some stats) :
    (RunView.ofSeries series).min = twoDecimals stats.min ∧
      (RunView.ofSeries series).max = twoDecimals stats.max := by
  simp only [RunView.ofSeries, RunView.statistic, h, and_self]

theorem bounded_of_number (hstats : series.stats = Stats.ofValues series.values)
    (hnumber : ∃ v ∈ series.values, v.isNaN = false) : (RunView.ofSeries series).Bounded := by
  have hsome : Stats.ofValues series.values ≠ none := by
    intro hnone
    obtain ⟨v, hv, -⟩ := hnumber
    rw [Stats.ofValues_eq_none_iff.mp hnone] at hv
    cases hv
  obtain ⟨stats, h⟩ := Option.ne_none_iff_exists'.mp hsome
  have bounds := Stats.bounds_of_number h hnumber
  obtain ⟨hmin, hmax⟩ := extremes_ofSeries (hstats.trans h)
  have hshown : ∀ text ∈ (RunView.ofSeries series).values, text ≠ "NaN" →
      ∃ v ∈ series.values, v.isNaN = false ∧ twoDecimals v = text := by
    intro text htext hne
    obtain ⟨v, hv, rfl⟩ := List.mem_map.mp htext
    exact ⟨v, hv, Bool.eq_false_iff.mpr fun hnan => hne (twoDecimals_of_nan hnan), rfl⟩
  refine ⟨?_, ?_, ?_, ?_⟩
  · rw [hmin]
    exact List.mem_map_of_mem bounds.min_mem
  · rw [hmax]
    exact List.mem_map_of_mem bounds.max_mem
  · intro text htext hne
    obtain ⟨v, hv, hnumber, rfl⟩ := hshown text htext hne
    rw [hmin]
    exact atMost_of_le (bounds.min_le v hv hnumber)
  · intro text htext hne
    obtain ⟨v, hv, hnumber, rfl⟩ := hshown text htext hne
    rw [hmax]
    exact atMost_of_le (bounds.le_max v hv hnumber)

/-- Without a number the least is a dash or infinity, and stands nowhere among the values. -/
theorem number_of_bounded (hstats : series.stats = Stats.ofValues series.values)
    (h : (RunView.ofSeries series).Bounded) : ∃ v ∈ series.values, v.isNaN = false := by
  by_contra hnone
  have hnan : ∀ v ∈ series.values, v.isNaN = true := by
    intro v hv
    by_contra hnumber
    exact hnone ⟨v, hv, Bool.eq_false_iff.mpr hnumber⟩
  have hleast : (RunView.ofSeries series).min = "NaN" := by
    obtain ⟨v, hv, htext⟩ := List.mem_map.mp h.min_mem
    rw [← htext]
    exact twoDecimals_of_nan (hnan v hv)
  cases hvalues : Stats.ofValues series.values with
  | none =>
    simp only [RunView.ofSeries, RunView.statistic, hstats, hvalues] at hleast
    exact absurd hleast (by decide)
  | some stats =>
    rw [(extremes_ofSeries (hstats.trans hvalues)).1,
      (Stats.extremes_of_nan hvalues hnan).1] at hleast
    exact absurd hleast (by decide)

end

/-- The runs of a group have the statistics of their values. -/
theorem stats_of_mem_ofRuns {runs : List Run} {group : Group} {series : RunSeries}
    (hgroup : group ∈ Group.ofRuns runs) (hseries : series ∈ group.runs) :
    series.stats = Stats.ofValues series.values := by
  rw [Group.ofRuns_eq_gather] at hgroup
  obtain ⟨name, -, rfl⟩ := List.mem_map.mp hgroup
  obtain ⟨record, -, rfl⟩ := List.mem_map.mp hseries
  rfl

/-- In every view of a group that a page is made from, NaN is shown of the samples that are NaN and
of no others, and the extremes bound the values and are among them exactly if some sample is a
number. -/
theorem ofGroup_bounded_iff (runs : List Run) {group : Group} (hgroup : group ∈ Group.ofRuns runs) :
    List.Forall₂
      (fun series view =>
        List.Forall₂ (fun v text => text = "NaN" ↔ v.isNaN = true) series.values view.values ∧
          (view.Bounded ↔ ∃ v ∈ series.values, v.isNaN = false))
      group.runs (GroupView.ofGroup group).runs := by
  apply List.forall₂_map_right_iff.mpr
  apply List.forall₂_same.mpr
  intro series hseries
  have hstats := stats_of_mem_ofRuns hgroup hseries
  exact ⟨values_ofSeries series, number_of_bounded hstats, bounded_of_number hstats⟩

/-- An idle window, a tie, the negative number nearest to zero, and infinity. -/
def tiedSeries : Series :=
  ⟨"p99", "ms", [],
    [.nan, .finite false ⟨1020 * 2 ^ 52, by decide⟩, .finite true ⟨1, by decide⟩,
      .infinite false]⟩

def tiedRun : Run := ⟨"out/a", "tsdb", [tiedSeries]⟩

theorem ofGroup_bounded_tied :
    ∃ group ∈ Group.ofRuns [tiedRun], ∃ view ∈ (GroupView.ofGroup group).runs,
      view.values = ["NaN", "0.12", "-0.00", "inf"] ∧ view.min = "-0.00" ∧ view.max = "inf" ∧
        view.Bounded := by
  have hgroup : ⟨"p99", "ms", [Group.entry tiedRun tiedSeries]⟩ ∈ Group.ofRuns [tiedRun] :=
    List.mem_singleton_self _
  obtain ⟨-, hbounded⟩ := (List.forall₂_cons.mp (ofGroup_bounded_iff [tiedRun] hgroup)).1
  have hnumber : ∃ v ∈ tiedSeries.results, v.isNaN = false :=
    ⟨_, List.mem_cons_of_mem _ List.mem_cons_self, rfl⟩
  exact ⟨_, hgroup, _, List.mem_singleton_self _, by decide +kernel, by decide +kernel,
    by decide +kernel, hbounded.mpr hnumber⟩

end BenchReport.Report
