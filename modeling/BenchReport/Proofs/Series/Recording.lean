import BenchReport.Proofs.NameMap
import BenchReport.Series
import Mathlib.Data.List.DropRight
import Mathlib.Data.List.Induction

/-!
What a spec holds after samples were recorded and whole series put in, in any order: under each
name the series last put in, or an empty one, and the samples recorded since.
-/
namespace BenchReport

/-- What is done to the measurements of a spec. -/
inductive Call
  | record (m : Measurement) (value : Binary64)
  | insert (series : Series)

namespace Call

/-- The name under which a call stores. -/
def name : Call → String
  | record m _ => m.name
  | insert series => series.name

def apply (spec : Spec) : Call → Spec
  | record m value => spec.record m value
  | insert series => spec.insertSeries series

/-- The series that a call puts in under a name. -/
def inserted? (name : String) : Call → Option Series
  | record _ _ => none
  | insert series => if series.name = name then some series else none

/-- The sample that a call records under a name, with its measurement. -/
def sample? (name : String) : Call → Option (Measurement × Binary64)
  | record m value => if m.name = name then some (m, value) else none
  | insert _ => none

/-- What a call makes of the series under its name. -/
def onto : Call → Option Series → Series
  | record m value, none => (Series.ofMeasurement m).push value m.label
  | record m value, some series => series.push value m.label
  | insert series, _ => series

end Call

/-- A spec after calls in turn. -/
def Spec.after (spec : Spec) (calls : List Call) : Spec := calls.foldl Call.apply spec

/-- Samples after those of a series, each with the label of its measurement. -/
def Series.extend (series : Series) (samples : List (Measurement × Binary64)) : Series :=
  { series with
    labels := series.labels ++ samples.map (·.1.label)
    results := series.results ++ samples.map (·.2) }

namespace Call

/-- The samples recorded under a name, in order. -/
def samples (name : String) (calls : List Call) : List (Measurement × Binary64) :=
  calls.filterMap (sample? name)

def lastInserted? (name : String) (calls : List Call) : Option Series :=
  calls.reverse.findSome? (inserted? name)

/-- The calls since a series was last put in under a name, or all of them if none was. -/
def sinceInserted (name : String) (calls : List Call) : List Call :=
  calls.rtakeWhile fun call => (call.inserted? name).isNone

/-- The series last put in under a name, or else an empty one in the unit of the first measurement
recorded under it. -/
def base? (name : String) (calls : List Call) : Option Series :=
  (lastInserted? name calls).or
    ((samples name calls).head?.map fun sample => ⟨name, sample.1.unit, [], []⟩)

/-- The series under a name after calls in turn: its base and every sample recorded since. -/
def stored? (name : String) (calls : List Call) : Option Series :=
  (base? name calls).map fun series => series.extend (samples name (sinceInserted name calls))

variable {name : String} {calls : List Call} {call : Call}

theorem get?_apply (call : Call) (spec : Spec) (name : String) :
    (call.apply spec).measurements.get? name =
      if call.name = name then some (call.onto (spec.measurements.get? name))
      else spec.measurements.get? name := by
  cases call with
  | record m value =>
    rw [apply, Spec.record, NameMap.get?_alter, Call.name]
    by_cases h : m.name = name
    · subst h
      cases spec.measurements.get? m.name with
      | none => rfl
      | some series => rfl
    · rw [if_neg h, if_neg h]
  | insert series => exact NameMap.get?_insert _ _ _ _

theorem samples_concat (name : String) (calls : List Call) (call : Call) :
    samples name (calls ++ [call]) = samples name calls ++ (call.sample? name).toList := by
  rw [samples, List.filterMap_append]
  cases h : call.sample? name with
  | none => simp [samples, h]
  | some sample => simp [samples, h]

theorem lastInserted?_concat (name : String) (calls : List Call) (call : Call) :
    lastInserted? name (calls ++ [call]) =
      (call.inserted? name).or (lastInserted? name calls) := by
  rw [lastInserted?, List.reverse_concat, List.findSome?_cons]
  cases call.inserted? name with
  | none => rfl
  | some series => rfl

theorem sinceInserted_concat (name : String) (calls : List Call) (call : Call) :
    sinceInserted name (calls ++ [call]) =
      if (call.inserted? name).isNone then sinceInserted name calls ++ [call] else [] := by
  rw [sinceInserted, List.rtakeWhile_concat]
  rfl

/-- Without a base there is no sample of a name either. -/
theorem samples_of_base?_eq_none (h : base? name calls = none) :
    samples name (sinceInserted name calls) = [] := by
  obtain ⟨-, hhead⟩ := Option.or_eq_none_iff.mp h
  have hnone : samples name calls = [] := by simpa using hhead
  have hsublist : (sinceInserted name calls).Sublist calls :=
    (List.rtakeWhile_suffix _ _).sublist
  exact List.sublist_nil.mp (hnone ▸ hsublist.filterMap (sample? name))

theorem base?_concat (name : String) (calls : List Call) (call : Call) :
    base? name (calls ++ [call]) =
      (call.inserted? name).or ((base? name calls).or
        ((call.sample? name).map fun sample => ⟨name, sample.1.unit, [], []⟩)) := by
  have hhead : (call.sample? name).toList.head? = call.sample? name := by
    cases call.sample? name with
    | none => rfl
    | some sample => rfl
  rw [base?, base?, lastInserted?_concat, samples_concat, List.head?_append, hhead, Option.map_or,
    Option.or_assoc, Option.or_assoc]

/-- One more call changes what is stored under its own name only. -/
theorem stored?_concat (name : String) (calls : List Call) (call : Call) :
    stored? name (calls ++ [call]) =
      if call.name = name then some (call.onto (stored? name calls))
      else stored? name calls := by
  unfold stored?
  rw [base?_concat, sinceInserted_concat]
  by_cases hname : call.name = name
  · rw [if_pos hname]
    cases call with
    | insert series =>
      have hinserted : (insert series).inserted? name = some series := if_pos hname
      rw [hinserted]
      simp [samples, onto, Series.extend]
    | record m value =>
      have hsample : (record m value).sample? name = some (m, value) := if_pos hname
      have hinserted : (record m value).inserted? name = none := rfl
      simp only [hinserted, hsample, Option.isNone_none, if_true, samples_concat]
      cases hbase : base? name calls with
      | none =>
        rw [samples_of_base?_eq_none hbase]
        subst hname
        rfl
      | some series => simp [onto, Series.extend, Series.push]
  · rw [if_neg hname]
    have hsample : call.sample? name = none := by
      cases call with
      | record m value => exact if_neg hname
      | insert series => rfl
    have hinserted : call.inserted? name = none := by
      cases call with
      | record m value => rfl
      | insert series => exact if_neg hname
    simp only [hinserted, hsample, Option.isNone_none, if_true, samples_concat]
    simp

/-- What holds of a series after every call that stores it holds of what is stored. -/
theorem forall_stored? {P : Series → Prop}
    (hstep : ∀ call ∈ calls, call.name = name → ∀ old : Option Series,
      (∀ series ∈ old, P series) → P (call.onto old)) :
    ∀ series ∈ stored? name calls, P series := by
  induction calls using List.reverseRecOn with
  | nil =>
    intro series h
    cases h
  | append_singleton calls call ih =>
    have hearlier := ih fun earlier hmem => hstep earlier (List.mem_append_left _ hmem)
    rw [stored?_concat]
    split
    case isTrue hname =>
      have hnow := hstep call (List.mem_append_right _ List.mem_cons_self) hname _ hearlier
      intro series h
      cases h
      exact hnow
    case isFalse => exact hearlier

theorem exists_stored?_iff :
    (∃ series, stored? name calls = some series) ↔ ∃ call ∈ calls, call.name = name := by
  induction calls using List.reverseRecOn with
  | nil => simp [stored?, base?, lastInserted?, samples]
  | append_singleton calls call ih =>
    rw [stored?_concat]
    by_cases hname : call.name = name
    · simp [hname]
    · simp [hname, ih]

theorem name_of_stored? {series : Series} (h : stored? name calls = some series) :
    series.name = name := by
  refine forall_stored? (P := fun series => series.name = name) (fun call _ hname old hold => ?_)
    series h
  cases call with
  | insert put => exact hname
  | record m value =>
    cases old with
    | none => exact hname
    | some series => exact hold series rfl

end Call

/-- Every sample has a label. -/
def Series.Labelled (series : Series) : Prop := series.labels.length = series.results.length

theorem Series.Labelled.push {series : Series} (h : series.Labelled) (value : Binary64)
    (label : String) : (series.push value label).Labelled := by
  simpa [Labelled, Series.push] using h

theorem Call.labelled_of_stored? {name : String} {calls : List Call} {series : Series}
    (hinserted : ∀ put, .insert put ∈ calls → put.Labelled)
    (h : stored? name calls = some series) : series.Labelled := by
  refine forall_stored? (P := Series.Labelled) (fun call hcall _ old hold => ?_) series h
  cases call with
  | insert put => exact hinserted put hcall
  | record m value =>
    cases old with
    | none =>
      have hempty : (Series.ofMeasurement m).Labelled := rfl
      exact hempty.push value m.label
    | some series => exact (hold series rfl).push value m.label

open Call

namespace Spec

theorem after_concat (spec : Spec) (calls : List Call) (call : Call) :
    spec.after (calls ++ [call]) = call.apply (spec.after calls) := by
  rw [after, List.foldl_append]
  rfl

theorem get?_after (texts : List String) (calls : List Call) (name : String) :
    ((new texts).after calls).measurements.get? name = stored? name calls := by
  -- The newest call acts on what the others left, so it is taken off first.
  induction calls using List.reverseRecOn with
  | nil => rfl
  | append_singleton calls call ih => rw [after_concat, get?_apply, stored?_concat, ih]

/-- A new spec after calls in turn has an entry for the names they used and for no other. Under a
name it has the series last put in, or an empty one in the first recorded unit, with the samples
recorded since; calls for other names leave it, and labels stay in step with samples. -/
theorem measurements_after (texts : List String) (calls : List Call) (name : String) :
    let spec := (new texts).after calls
    (name ∈ spec.measurements.names ↔ ∃ call ∈ calls, call.name = name) ∧
      (∀ entry ∈ spec.measurements.entries, entry.2.name = entry.1) ∧
      spec.measurements.get? name = stored? name calls ∧
      (∀ call : Call, call.name ≠ name →
        (call.apply spec).measurements.get? name = spec.measurements.get? name) ∧
      ((∀ series, .insert series ∈ calls → series.labels.length = series.results.length) →
        ∀ series ∈ spec.measurements.values, series.labels.length = series.results.length) := by
  intro spec
  have hget (name : String) : spec.measurements.get? name = stored? name calls :=
    get?_after texts calls name
  refine ⟨?_, fun entry hentry => ?_, hget name, fun call hother => ?_,
    fun hinserted series hmem => ?_⟩
  · rw [NameMap.mem_names_iff, hget, exists_stored?_iff]
  · rw [NameMap.mem_entries_iff, hget] at hentry
    exact name_of_stored? hentry
  · rw [get?_apply, if_neg hother]
  · obtain ⟨name, hname⟩ := NameMap.mem_values_iff.mp hmem
    rw [hget] at hname
    exact labelled_of_stored? hinserted hname

def pushRate : Measurement := ⟨"rate", "sum(up)", "Requests per Second", "distributor"⟩

/-- The same name in another unit. -/
def pushRatePerMinute : Measurement := ⟨"rate", "60 * sum(up)", "Requests per Minute", "ingester"⟩

def heapUse : Measurement := ⟨"heap", "sum(heap)", "Gigabytes", "querier"⟩

/-- A sample, a series in its place, a sample under another name and one more sample. -/
def mixedCalls : List Call :=
  [.record pushRate .zero, .insert ⟨"rate", "ops", ["compactor"], [.nan]⟩, .record heapUse .zero,
    .record pushRatePerMinute .zero]

theorem measurements_after_mixedCalls :
    ((new []).after mixedCalls).measurements.get? "rate" =
        some ⟨"rate", "ops", ["compactor", "ingester"], [.nan, .zero]⟩ ∧
      ((Call.record heapUse .nan).apply ((new []).after mixedCalls)).measurements.get? "rate" =
        ((new []).after mixedCalls).measurements.get? "rate" ∧
      ∀ series ∈ ((new []).after mixedCalls).measurements.values,
        series.labels.length = series.results.length := by
  obtain ⟨-, -, hget, hother, hlabelled⟩ := measurements_after [] mixedCalls "rate"
  refine ⟨hget.trans (by decide), hother _ (by decide), hlabelled fun series hmem => ?_⟩
  have hput : series = ⟨"rate", "ops", ["compactor"], [.nan]⟩ := by simpa [mixedCalls] using hmem
  rw [hput]
  rfl

end Spec

end BenchReport
