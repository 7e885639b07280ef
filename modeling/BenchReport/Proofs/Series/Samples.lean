import BenchReport.Proofs.Series.Recording
import Mathlib.Algebra.BigOperators.Group.List.Lemmas
import Mathlib.Algebra.GroupWithZero.Nat

/-!
A spec into which samples alone were recorded holds each of them once, under the name of its
measurement.
-/
namespace BenchReport

open Call

/-- The samples recorded for measurements of a name, in order. -/
def samplesUnder (name : String) (samples : List (Measurement × Binary64)) :
    List (Measurement × Binary64) :=
  samples.filter fun sample => sample.1.name = name

namespace Spec

/-- A spec after samples in turn. -/
def recordAll (spec : Spec) (samples : List (Measurement × Binary64)) : Spec :=
  samples.foldl (fun spec sample => spec.record sample.1 sample.2) spec

variable {texts : List String} {samples : List (Measurement × Binary64)} {name : String}
variable {series : Series}

theorem recordAll_eq_after (spec : Spec) (samples : List (Measurement × Binary64)) :
    spec.recordAll samples = spec.after (samples.map fun sample => .record sample.1 sample.2) := by
  rw [after, List.foldl_map]
  rfl

/-- Under each name there are its samples, in the unit of the first. -/
theorem get?_recordAll (texts : List String) (samples : List (Measurement × Binary64))
    (name : String) :
    ((new texts).recordAll samples).measurements.get? name =
      (samplesUnder name samples).head?.map fun first =>
        ⟨name, first.1.unit, (samplesUnder name samples).map (·.1.label),
          (samplesUnder name samples).map (·.2)⟩ := by
  let calls := samples.map fun sample => Call.record sample.1 sample.2
  have hsamples : Call.samples name calls = samplesUnder name samples := by
    rw [Call.samples, List.filterMap_map, samplesUnder, ← List.filterMap_eq_filter]
    refine List.filterMap_congr fun sample _ => ?_
    by_cases h : sample.1.name = name
    · simp [Call.sample?, Option.guard, h]
    · simp [Call.sample?, Option.guard, h]
  have hnone : ∀ call ∈ calls, call.inserted? name = none := by
    intro call hcall
    obtain ⟨sample, -, rfl⟩ := List.mem_map.mp hcall
    rfl
  have hinserted : lastInserted? name calls = none :=
    List.findSome?_eq_none_iff.mpr fun call hcall => hnone call (List.mem_reverse.mp hcall)
  have hsince : sinceInserted name calls = calls :=
    List.rtakeWhile_eq_self_iff.mpr fun call hcall =>
      Option.isNone_iff_eq_none.mpr (hnone call hcall)
  rw [recordAll_eq_after, get?_after, stored?, base?, hinserted, hsince, hsamples, Option.none_or,
    Option.map_map]
  rfl

theorem mem_names_recordAll :
    name ∈ ((new texts).recordAll samples).measurements.names ↔
      name ∈ samples.map (·.1.name) := by
  rw [NameMap.mem_names_iff, ← Option.isSome_iff_exists, get?_recordAll]
  simp [samplesUnder]

theorem results_recordAll
    (h : ((new texts).recordAll samples).measurements.get? name = some series) :
    series.results = (samplesUnder name samples).map (·.2) := by
  rw [get?_recordAll] at h
  obtain ⟨first, -, hseries⟩ := Option.map_eq_some_iff.mp h
  rw [← hseries]

/-- The unit of a series is that of a measurement recorded under its name. -/
theorem units_recordAll
    (h : ((new texts).recordAll samples).measurements.get? name = some series) :
    ∃ sample ∈ samples, sample.1.name = name ∧ series.units = sample.1.unit := by
  rw [get?_recordAll] at h
  obtain ⟨first, hfirst, hseries⟩ := Option.map_eq_some_iff.mp h
  obtain ⟨hmem, hname⟩ := List.mem_filter.mp (List.mem_of_mem_head? hfirst)
  refine ⟨first, hmem, of_decide_eq_true hname, ?_⟩
  rw [← hseries]

theorem names_recordAll_perm (texts : List String) (samples : List (Measurement × Binary64)) :
    ((new texts).recordAll samples).measurements.names.Perm (samples.map (·.1.name)).dedup :=
  NameMap.names_perm_dedup fun _ => mem_names_recordAll

theorem size_recordAll (texts : List String) (samples : List (Measurement × Binary64)) :
    ((new texts).recordAll samples).measurements.size = (samples.map (·.1.name)).dedup.length :=
  NameMap.size_eq_length_dedup fun _ => mem_names_recordAll

/-- No sample is lost, and none is held twice. -/
theorem sum_results_recordAll (texts : List String) (samples : List (Measurement × Binary64)) :
    (((new texts).recordAll samples).measurements.values.map fun series =>
      series.results.length).sum = samples.length := by
  have hcount : ∀ entry ∈ ((new texts).recordAll samples).measurements.entries,
      entry.2.results.length = (samples.map (·.1.name)).count entry.1 := by
    intro entry hentry
    rw [results_recordAll (NameMap.mem_entries_iff.mp hentry), List.length_map,
      List.count_eq_countP, List.countP_map, List.countP_eq_length_filter]
    rfl
  calc
    _ = (((new texts).recordAll samples).measurements.names.map fun name =>
          (samples.map (·.1.name)).count name).sum := by
      rw [NameMap.values, NameMap.names, List.map_map, List.map_map]
      exact congrArg List.sum (List.map_congr_left hcount)
    _ = ((samples.map (·.1.name)).dedup.map fun name => (samples.map (·.1.name)).count name).sum :=
      ((names_recordAll_perm texts samples).map _).sum_eq
    _ = samples.length := by rw [List.sum_map_count_dedup_eq_length, List.length_map]

end Spec

end BenchReport
