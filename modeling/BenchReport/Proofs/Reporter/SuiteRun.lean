import BenchReport.Proofs.Experiment.Codec
import BenchReport.Proofs.NameMap
import BenchReport.Proofs.Reporter.CsvDirectory
import BenchReport.Reporter.Fanout

/-!
A whole suite told to a CSV reporter and an experiment reporter on one directory: its series stand
in CSV files, and in the experiment file in the order in which the specs completed.
-/
namespace BenchReport

open FileName (csvName)

/-- A spec filled by recording samples and by putting in whole series. -/
inductive Spec.Filled : Spec → Prop
  | new (texts : List String) : Filled (Spec.new texts)
  | record {spec : Spec} (h : Filled spec) (m : Measurement) (value : Binary64) :
      Filled (spec.record m value)
  | insertSeries {spec : Spec} (h : Filled spec) (series : Series) :
      Filled (spec.insertSeries series)
  | settle {spec : Spec} (h : Filled spec) (state : SpecState) :
      Filled { spec with state := state }

/-- Every series of a filled spec stands under its own name. -/
theorem Spec.Filled.name_of_get? {spec : Spec} (filled : spec.Filled) {name : String}
    {series : Series} (h : spec.measurements.get? name = some series) : series.name = name := by
  induction filled generalizing name series with
  | new texts => cases h
  | settle _ _ ih => exact ih h
  | @record spec _ m value ih =>
    simp only [Spec.record, NameMap.get?_alter] at h
    by_cases hname : m.name = name
    · rw [if_pos hname] at h
      cases hfound : spec.measurements.get? m.name with
      | none =>
        simp only [hfound, Option.some.injEq] at h
        rw [← h]
        exact hname
      | some found =>
        simp only [hfound, Option.some.injEq] at h
        rw [← h]
        exact (ih hfound).trans hname
    · rw [if_neg hname] at h
      exact ih h
  | @insertSeries spec _ inserted ih =>
    simp only [Spec.insertSeries, NameMap.get?_insert] at h
    by_cases hname : inserted.name = name
    · rw [if_pos hname, Option.some.injEq] at h
      rw [← h]
      exact hname
    · rw [if_neg hname] at h
      exact ih h

/-- The series of a list, each under its name. -/
def Series.named (series : List Series) : List (String × Series) := series.map fun s => (s.name, s)

theorem Spec.Filled.entries {spec : Spec} (filled : spec.Filled) :
    spec.measurements.entries = Series.named spec.measurements.values := by
  have hself : ∀ entry ∈ spec.measurements.entries, (entry.2.name, entry.2) = entry := by
    intro entry hentry
    have hname := filled.name_of_get? (NameMap.mem_entries_iff.mp hentry)
    rw [hname]
  rw [Series.named, NameMap.values, List.map_map]
  exact ((List.map_congr_left hself).trans (List.map_id' _)).symm

namespace Reporters

/-- Tells every reporter about hooks in turn, each at its own time. -/
def runAt (reporters : Reporters) (world : World) : List (Int × Hook) → Reporters × World
  | [] => (reporters, world)
  | (time, hook) :: rest =>
    let (reporters, world) := Reporters.notify reporters hook { world with clock := time }
    runAt reporters world rest

/-- A CSV reporter and an experiment reporter on one directory, in either order. -/
def pair (csvFirst : Bool) (dir : String) (collected : List Series) : Reporters :=
  let csv : Reporters := .leaf (.csv ⟨dir⟩)
  let experiment : Reporters := .leaf (.experiment ⟨dir, collected⟩)
  .group (if csvFirst then [csv, experiment] else [experiment, csv])

/-- The hooks of a suite: it begins, specs complete, and it ends. -/
def suiteHooks (begun : Int × Suite) (specs : List (Int × Spec)) (ended : Int × Suite) :
    List (Int × Hook) :=
  (begun.1, .suiteWillBegin begun.2) ::
    (specs.map fun spec => (spec.1, .specDidComplete spec.2)) ++ [(ended.1, .suiteDidEnd ended.2)]

open Csv

variable {dir : String} {place : Place} {written : List (String × Series)}

theorem notify_suiteWillBegin (csvFirst : Bool) (dir : String) (collected : List Series)
    (suite : Suite) (world : World) :
    Reporters.notify (pair csvFirst dir collected) (.suiteWillBegin suite) world =
      (pair csvFirst dir [], world) := by
  cases csvFirst with
  | true => rfl
  | false => rfl

theorem notify_specDidComplete (csvFirst : Bool) (dir : String) (collected : List Series)
    (spec : Spec) (world : World) :
    Reporters.notify (pair csvFirst dir collected) (.specDidComplete spec) world =
      (pair csvFirst dir (collected ++ spec.measurements.values),
        (CsvReporter.mk dir).notify (.specDidComplete spec) world) := by
  cases csvFirst with
  | true => rfl
  | false => rfl

theorem notify_suiteDidEnd (csvFirst : Bool) (dir : String) (collected : List Series)
    (suite : Suite) (world : World) :
    (Reporters.notify (pair csvFirst dir collected) (.suiteDidEnd suite) world).2 =
      ((ExperimentReporter.mk dir collected).notify (.suiteDidEnd suite) world).2 := by
  cases csvFirst with
  | true => rfl
  | false => rfl

/-- Every completed spec adds its series to the directory and to the collection. -/
theorem runAt_specs (csvFirst : Bool) (collected : List Series) (specs : List (Int × Spec))
    (rest : List (Int × Hook)) {world : World}
    (h : Holds world.files dir place written none) :
    ∃ later, runAt (pair csvFirst dir collected) world
        ((specs.map fun spec => (spec.1, Hook.specDidComplete spec.2)) ++ rest) =
          runAt (pair csvFirst dir
            (collected ++ specs.flatMap fun spec => spec.2.measurements.values)) later rest ∧
      Holds later.files dir place
        (written ++ specs.flatMap fun spec => spec.2.measurements.entries) none := by
  induction specs generalizing collected written world with
  | nil =>
    refine ⟨world, ?_, ?_⟩
    · rw [List.flatMap_nil, List.append_nil]
      rfl
    · rw [List.flatMap_nil, List.append_nil]
      exact h
  | cons spec specs ih =>
    have hticked : Holds ({ world with clock := spec.1 } : World).files dir place written none := h
    have hnext := CsvReporter.notify_holds spec.2 hticked
    obtain ⟨later, hrun, hlater⟩ := ih (collected ++ spec.2.measurements.values) hnext
    refine ⟨later, ?_, ?_⟩
    · rw [List.map_cons, List.cons_append, runAt, notify_specDidComplete, List.flatMap_cons,
        ← List.append_assoc, ← hrun]
    · rw [List.flatMap_cons, ← List.append_assoc]
      exact hlater

/-- In a directory without an experiment file the end of a suite writes one. -/
theorem suiteDidEnd_holds (collected : List Series) (suite : Suite) {world : World}
    (h : Holds world.files dir place written none) :
    Holds ((ExperimentReporter.mk dir collected).notify (.suiteDidEnd suite) world).2.files dir
      place written (some (.file
        (Experiment.fileJson [⟨suite.description, collected⟩]).prettyText.toByteArray)) := by
  have hresolve := Experiment.resolve_fileName h.leads h.directory
  have hwrite : world.files.writeText (Path.join dir Experiment.fileName)
      (Experiment.fileJson [⟨suite.description, collected⟩]).prettyText =
        .ok (world.files.put (place ++ [Experiment.fileName.toList]) (.file
          (Experiment.fileJson [⟨suite.description, collected⟩]).prettyText.toByteArray)) := by
    simp only [FileTree.writeText, FileTree.write, FileTree.openForWriting, hresolve,
      h.experiment]
  unfold ExperimentReporter.notify
  simp only [ExperimentReporter.outputPath, ExperimentReporter.fileText, hwrite]
  exact h.put_experiment _

/-- After a suite in an empty directory both reporters have written its series there. -/
theorem suite_holds (csvFirst : Bool) (begun : Int × Suite) (specs : List (Int × Spec))
    (ended : Int × Suite) {world : World} (fresh : world.files.Fresh dir place) :
    Holds (runAt (pair csvFirst dir []) world (suiteHooks begun specs ended)).2.files dir place
      (specs.flatMap fun spec => spec.2.measurements.entries)
      (some (.file (Experiment.fileJson [⟨ended.2.description,
        specs.flatMap fun spec => spec.2.measurements.values⟩]).prettyText.toByteArray)) := by
  have hbegun : Holds ({ world with clock := begun.1 } : World).files dir place [] none :=
    holds_of_fresh fresh
  obtain ⟨later, hrun, hlater⟩ :=
    runAt_specs csvFirst [] specs [(ended.1, .suiteDidEnd ended.2)] hbegun
  rw [suiteHooks, List.cons_append, runAt, notify_suiteWillBegin]
  simp only [hrun, runAt]
  rw [notify_suiteDidEnd]
  exact suiteDidEnd_holds _ ended.2 hlater

end Reporters

end BenchReport
