import BenchReport.Proofs.Number.Order
import BenchReport.Report.Stats

/-!
The extremes of samples. As soon as one sample is a number both are samples, and every number lies
between them. Samples that are all NaN leave the infinities with which the search begins.
-/
namespace BenchReport.Report.Stats

open Binary64

/-- The statistics count the samples and hold the least and the greatest of them. -/
structure Bounds (stats : Stats) (values : List Binary64) : Prop where
  samples : stats.samples = values.length
  min_mem : stats.min ∈ values
  max_mem : stats.max ∈ values
  min_le : ∀ v ∈ values, v.isNaN = false → stats.min.le v = true
  le_max : ∀ v ∈ values, v.isNaN = false → v.le stats.max = true

variable {stats : Stats} {values : List Binary64}

theorem ofValues_eq_none_iff : ofValues values = none ↔ values = [] := by
  unfold ofValues
  split
  case isTrue h => simpa using h
  case isFalse h => simpa using h

/-- What the statistics of samples hold, as far as the extremes go. -/
theorem ofValues_eq_some (h : ofValues values = some stats) :
    stats.samples = values.length ∧ stats.min = values.foldl Binary64.min (.infinite false) ∧
      stats.max = values.foldl Binary64.max (.infinite true) := by
  unfold ofValues at h
  split at h
  · cases h
  · cases h
    exact ⟨rfl, rfl, rfl⟩

theorem bounds_of_number (h : ofValues values = some stats)
    (hnumber : ∃ v ∈ values, v.isNaN = false) : stats.Bounds values := by
  obtain ⟨hsamples, hmin, hmax⟩ := ofValues_eq_some h
  refine ⟨hsamples, ?_, ?_, ?_, ?_⟩
  · rw [hmin]
    exact choice_min.foldl_mem_of_number rfl (fun _ => eq_infinite_of_le) hnumber
  · rw [hmax]
    exact choice_max.foldl_mem_of_number rfl (fun _ => eq_infinite_of_ge) hnumber
  · rw [hmin]
    exact (choice_min.foldl_before rfl).2
  · rw [hmax]
    exact (choice_max.foldl_before rfl).2

/-- Without a number the search for the extremes ends where it began. -/
theorem extremes_of_nan (h : ofValues values = some stats) (hnan : ∀ v ∈ values, v.isNaN = true) :
    stats.min = .infinite false ∧ stats.max = .infinite true := by
  obtain ⟨-, hmin, hmax⟩ := ofValues_eq_some h
  exact ⟨hmin.trans (choice_min.foldl_nan hnan), hmax.trans (choice_max.foldl_nan hnan)⟩

/-- Samples have statistics unless there are none. Their extremes are samples with every number
between them exactly if some sample is a number; else the least is infinity and the greatest
negative infinity, though every sample is NaN. -/
theorem ofValues_extremes (values : List Binary64) :
    (ofValues values = none ↔ values = []) ∧
      (values ≠ [] →
        ∃ stats, ofValues values = some stats ∧ stats.samples = values.length ∧
          (stats.Bounds values ↔ ∃ v ∈ values, v.isNaN = false) ∧
          ((∀ v ∈ values, v.isNaN = true) →
            stats.min = .infinite false ∧ stats.max = .infinite true)) := by
  refine ⟨ofValues_eq_none_iff, fun hne => ?_⟩
  obtain ⟨stats, h⟩ := Option.ne_none_iff_exists'.mp fun hnone =>
    hne (ofValues_eq_none_iff.mp hnone)
  have hmin : stats.min.isNaN = false := by
    rw [(ofValues_eq_some h).2.1]
    exact (le_iff.mp (choice_min.foldl_before rfl).1).1
  exact ⟨stats, h, (ofValues_eq_some h).1,
    ⟨fun bounds => ⟨stats.min, bounds.min_mem, hmin⟩, bounds_of_number h⟩, extremes_of_nan h⟩

/-- A sample without a value beside a number. -/
theorem ofValues_extremes_idle :
    [Binary64.nan, .zero] ≠ [] ∧
      ∃ stats, ofValues [.nan, .zero] = some stats ∧ stats.Bounds [.nan, .zero] := by
  have hne : [Binary64.nan, .zero] ≠ [] := List.cons_ne_nil _ _
  obtain ⟨stats, h, -, hbounds, -⟩ := (ofValues_extremes [.nan, .zero]).2 hne
  exact ⟨hne, stats, h, hbounds.mpr ⟨.zero, by decide, rfl⟩⟩

/-- Of a single NaN the extremes are no samples, and the least is above the greatest. -/
theorem extremes_not_samples :
    ∃ stats, ofValues [.nan] = some stats ∧ stats.min ∉ [Binary64.nan] ∧
      stats.max ∉ [Binary64.nan] ∧ stats.max.lt stats.min = true :=
  ⟨_, rfl, by decide, by decide, by decide⟩

end BenchReport.Report.Stats
