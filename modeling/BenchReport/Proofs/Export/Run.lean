import BenchReport.Export
import BenchReport.Proofs.NameMap
import BenchReport.Proofs.Reporter.CsvDirectory

/-! What an export writes: for every experiment the last series of each name, by name. -/
namespace BenchReport.Export

open Csv

/-- The series that an export writes for an experiment, each under its name. -/
def exported (experiment : Experiment) : List (String × Series) :=
  (specOf experiment).measurements.entries

theorem insertAll_measurements (series : List Series) (spec : Spec) :
    (series.foldl Spec.insertSeries spec).measurements =
      series.foldl (fun map s => map.insert s.name s) spec.measurements := by
  induction series generalizing spec with
  | nil => rfl
  | cons s rest ih => exact ih (spec.insertSeries s)

/-- A name is exported with the last series of that name. -/
theorem mem_exported {experiment : Experiment} {name : String} {series : Series} :
    (name, series) ∈ exported experiment ↔
      experiment.measurements.reverse.find? (fun s => s.name = name) = some series := by
  have hget := NameMap.get?_insertAll Series.name experiment.measurements .empty name
  rw [NameMap.get?_empty, Option.or_none] at hget
  rw [exported, NameMap.mem_entries_iff, ← hget, specOf, insertAll_measurements]
  rfl

theorem name_of_mem_exported {experiment : Experiment} {entry : String × Series}
    (h : entry ∈ exported experiment) :
    entry.2 ∈ experiment.measurements ∧ entry.2.name = entry.1 := by
  have hfind := mem_exported.mp h
  have hmem := List.mem_of_find?_eq_some hfind
  have hname := List.find?_some hfind
  exact ⟨List.mem_reverse.mp hmem, by simpa using hname⟩

/-- Every experiment adds what it exports to what the directory holds. -/
theorem writeAll_holds {dir : String} {place : Place} {written : List (String × Series)}
    {node : Option FileNode} (experiments : List Experiment) (count : Nat) {world : World}
    (h : Holds world.files dir place written node) :
    Holds (writeAll ⟨dir⟩ experiments count world).2.files dir place
      (written ++ experiments.flatMap exported) node := by
  induction experiments generalizing written count world with
  | nil =>
    rw [List.flatMap_nil, List.append_nil]
    exact h
  | cons experiment rest ih =>
    have hfirst := CsvReporter.notify_holds (specOf experiment) h
    have hrest := ih (count + (specOf experiment).measurements.size) hfirst
    rwa [List.append_assoc, ← exported, ← List.flatMap_cons] at hrest

/-- An export into an empty directory succeeds once its input is read, and the directory then
holds what every experiment exports. -/
theorem run_holds {world : World} {env : Settings.Environment} {input : String}
    {reportDir : Option String} {configPath : String} {made : FileTree} {place : Place}
    {experiments : List Experiment}
    (hmade : world.files.createDirectories
      (settings world.files env reportDir configPath).1.reportDir = .ok made)
    (fresh : made.Fresh (settings world.files env reportDir configPath).1.reportDir place)
    (hload : Experiment.load made input = .ok experiments) :
    ∃ count, (run world env input reportDir configPath).1 = .ok count ∧
      Holds (run world env input reportDir configPath).2.files
        (settings world.files env reportDir configPath).1.reportDir place
        (experiments.flatMap exported) none := by
  unfold run
  simp only [hmade, hload]
  exact ⟨_, rfl, writeAll_holds experiments 0 (holds_of_fresh fresh)⟩

end BenchReport.Export
