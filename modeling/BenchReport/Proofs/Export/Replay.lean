import BenchReport.Proofs.Export.Loss
import BenchReport.Proofs.Reporter.SuiteRun

/-!
An export repeats the CSV files of the suite whose experiment file it reads: the files have the
same names and the same values, as long as different measurements have different files.
-/
namespace BenchReport.Export

open Csv
open FileName (baseName csvName)

theorem lastWritten_named_iff {file : List Char} {measurements : List Series} {series : Series} :
    lastWritten file (Series.named measurements) = some series ↔
      (csvName series.name).toList = file ∧
        ∃ before after, measurements = before ++ series :: after ∧
          ∀ later ∈ after, (csvName later.name).toList ≠ file := by
  have hfind : lastWritten file (Series.named measurements) =
      measurements.reverse.find? fun s => (csvName s.name).toList = file := by
    simp [lastWritten, Series.named, ← List.map_reverse, List.find?_map, Function.comp_def]
  rw [hfind, NameMap.find?_reverse_eq_some_iff]
  simp only [decide_eq_true_eq, decide_eq_false_iff_not, ne_eq]

/-- Where different names have different files, a file shows the same series after an experiment
was exported as after its series were written one by one. -/
theorem lastWritten_exported {experiment : Experiment}
    (apart : ∀ a ∈ experiment.measurements, ∀ b ∈ experiment.measurements,
      baseName a.name = baseName b.name → a.name = b.name) (file : List Char) :
    lastWritten file (exported experiment) =
      lastWritten file (Series.named experiment.measurements) := by
  refine Option.ext fun series => ?_
  rw [lastWritten_exported_iff, lastWritten_named_iff]
  constructor
  · rintro ⟨hlast, hfile⟩
    obtain ⟨before, after, hsplit, hafter⟩ := hlast.last
    refine ⟨hfile, before, after, hsplit, fun later hlater hsame => ?_⟩
    have hmem : later ∈ experiment.measurements := by
      rw [hsplit]
      exact List.mem_append_right _ (List.mem_cons_of_mem _ hlater)
    exact hafter later hlater
      (apart later hmem series hlast.last.mem ((csvName_eq_iff hfile).mp hsame))
  · rintro ⟨hfile, before, after, hsplit, hafter⟩
    have hlast : LastOfName experiment.measurements series := by
      refine ⟨before, after, hsplit, fun later hlater hname => hafter later hlater ?_⟩
      rw [hname, hfile]
    refine ⟨⟨hlast, fun other hother hbase => ?_⟩, hfile⟩
    -- Only one name of the experiment has the file, so none is greater.
    exact Std.le_of_eq (apart other hother series hlast.mem hbase)

/-- The names under which specs recorded. -/
def recordedNames (specs : List (Int × Spec)) : List String :=
  specs.flatMap fun spec => spec.2.measurements.names

theorem entries_eq_named {specs : List (Int × Spec)} (filled : ∀ spec ∈ specs, spec.2.Filled) :
    (specs.flatMap fun spec => spec.2.measurements.entries) =
      Series.named (specs.flatMap fun spec => spec.2.measurements.values) := by
  induction specs with
  | nil => rfl
  | cons spec specs ih =>
    have hspec := (filled spec List.mem_cons_self).entries
    have hrest := ih fun other hother => filled other (List.mem_cons_of_mem _ hother)
    rw [List.flatMap_cons, List.flatMap_cons, hspec, hrest, Series.named, Series.named,
      Series.named, List.map_append]

theorem name_mem_recordedNames {specs : List (Int × Spec)}
    (filled : ∀ spec ∈ specs, spec.2.Filled) {series : Series}
    (h : series ∈ specs.flatMap fun spec => spec.2.measurements.values) :
    series.name ∈ recordedNames specs := by
  obtain ⟨spec, hspec, hseries⟩ := List.mem_flatMap.mp h
  obtain ⟨entry, hentry, rfl⟩ := List.mem_map.mp hseries
  have hname := (filled spec hspec).name_of_get? (NameMap.mem_entries_iff.mp hentry)
  rw [hname]
  exact List.mem_flatMap.mpr ⟨spec, hspec, List.mem_map.mpr ⟨entry, hentry, rfl⟩⟩

theorem shows_same {live replayed : Option FileNode} {series : Option Series}
    (hlive : Shows live series) (hreplayed : Shows replayed series) :
    (live = none ∧ replayed = none) ∨
      ∃ old new column, live = some (.file old) ∧ replayed = some (.file new) ∧
        valueColumn? old = some column ∧ valueColumn? new = some column := by
  cases series with
  | none => exact .inl ⟨hlive, hreplayed⟩
  | some series =>
    obtain ⟨old, hold, holdColumn⟩ := hlive
    obtain ⟨new, hnew, hnewColumn⟩ := hreplayed
    exact .inr ⟨old, new, _, hold, hnew, holdColumn, hnewColumn⟩

/-- A suite is told to a CSV reporter and an experiment reporter on an empty directory, and its
experiment file is exported to another empty one. Beside the experiment file, both directories
then have the same files, each with the same values line by line. -/
theorem run_repeats_suite (csvFirst : Bool) {dir : String} {place : Place} {world : World}
    (fresh : world.files.Fresh dir place) (begun ended : Int × Suite)
    {specs : List (Int × Spec)} (filled : ∀ spec ∈ specs, spec.2.Filled)
    (apart : ∀ a ∈ recordedNames specs, ∀ b ∈ recordedNames specs,
      baseName a = baseName b → a = b)
    (clock : Int) (log : List Event) (notes : List String) (env : Settings.Environment)
    (reportDir : Option String) (configPath : String) {made : FileTree} {outPlace : Place} :
    let suite := Reporters.suiteHooks begun specs ended
    let live := (Reporters.runAt (Reporters.pair csvFirst dir []) world suite).2.files
    let later : World := ⟨live, clock, log, notes⟩
    let out := (settings live env reportDir configPath).1.reportDir
    let exported := run later env (Path.join dir Experiment.fileName) reportDir configPath
    live.createDirectories out = .ok made → made.Fresh out outPlace →
      (∃ count, exported.1 = .ok count) ∧
        ∀ file, file ≠ Experiment.fileName.toList →
          (live.node? (place ++ [file]) = none ∧
            exported.2.files.node? (outPlace ++ [file]) = none) ∨
          ∃ old new column, live.node? (place ++ [file]) = some (.file old) ∧
            exported.2.files.node? (outPlace ++ [file]) = some (.file new) ∧
            valueColumn? old = some column ∧ valueColumn? new = some column := by
  intro suite live later out exported hmade hfresh
  have hlive := Reporters.suite_holds csvFirst begun specs ended fresh
  -- Making the other directory leaves the experiment file where it was, so it is loaded.
  have grows := FileTree.createDirectories_grows hmade
  have hresolve := Experiment.resolve_fileName (grows.keeps.joinPlace hlive.leads)
    (grows.keeps.directory place hlive.directory)
  have hload := Experiment.load_file hresolve (grows.node _ hlive.experiment)
  have hmadeLater : later.files.createDirectories
      (settings later.files env reportDir configPath).1.reportDir = .ok made := hmade
  obtain ⟨count, hcount, hexported⟩ := run_holds hmadeLater hfresh hload
  refine ⟨⟨count, hcount⟩, fun file hfile => ?_⟩
  -- Written spec by spec or as one experiment, the same series ends up in a file.
  have hsame : shown (specs.flatMap fun spec => spec.2.measurements.entries) file =
      shown ([(⟨ended.2.description,
        specs.flatMap fun spec => spec.2.measurements.values⟩ : Experiment)].flatMap
          Export.exported) file := by
    have hapart : ∀ a ∈ specs.flatMap (fun spec => spec.2.measurements.values),
        ∀ b ∈ specs.flatMap (fun spec => spec.2.measurements.values),
          baseName a.name = baseName b.name → a.name = b.name := by
      intro a ha b hb
      exact apart a.name (name_mem_recordedNames filled ha) b.name
        (name_mem_recordedNames filled hb)
    rw [shown, shown, List.flatMap_singleton, entries_eq_named filled,
      lastWritten_exported hapart]
  have hold := hlive.csv file hfile
  rw [hsame] at hold
  exact shows_same hold (hexported.csv file hfile)

/-- A place in the working directory `bench`. -/
def benchPlace (name : String) : Place := ["bench".toList, name.toList]

/-- A working directory with an empty directory `live`. -/
def twoSpecsWorld : World :=
  .ofFiles ⟨["bench".toList], [(["bench".toList], .directory), (benchPlace "live", .directory)]⟩ 0

/-- Two specs that record under one name, one of them under another name too. -/
def twoSpecs : List (Int × Spec) :=
  let rate : Measurement := ⟨"push rate", "rate", "ops", "distributor"⟩
  [(5, (Spec.new ["first"]).record rate .nan),
    (6, ((Spec.new ["second"]).record rate (.infinite true)).insertSeries ⟨"cpu", "m", [], []⟩)]

/-- The files after both specs. -/
def twoSpecsLive : FileTree :=
  (Reporters.runAt (Reporters.pair true "live" []) twoSpecsWorld
    (Reporters.suiteHooks (4, .new "suite") twoSpecs (7, .new "suite"))).2.files

theorem run_repeats_twoSpecs :
    let file := "push-rate.csv".toList
    ∃ old new column, twoSpecsLive.node? (benchPlace "live" ++ [file]) = some (.file old) ∧
      (run ⟨twoSpecsLive, 100, [], []⟩ (fun _ => none) (Path.join "live" Experiment.fileName)
        (some "replayed") "lokibench.json").2.files.node? (benchPlace "replayed" ++ [file]) =
          some (.file new) ∧
      valueColumn? old = some column ∧ valueColumn? new = some column := by
  intro file
  have fresh : twoSpecsWorld.files.Fresh "live" (benchPlace "live") := ⟨rfl, rfl, fun _ => rfl⟩
  have filled : ∀ spec ∈ twoSpecs, spec.2.Filled := by
    intro spec hspec
    rcases List.mem_cons.mp hspec with rfl | hspec
    · exact .record (.new _) _ _
    · rw [List.mem_singleton.mp hspec]
      exact .insertSeries (.record (.new _) _ _) _
  have apart : ∀ a ∈ recordedNames twoSpecs, ∀ b ∈ recordedNames twoSpecs,
      baseName a = baseName b → a = b := by decide
  have hmade : twoSpecsLive.createDirectories "replayed" =
      .ok (twoSpecsLive.put (benchPlace "replayed") .directory) := rfl
  have hout : (twoSpecsLive.put (benchPlace "replayed") .directory).Fresh "replayed"
      (benchPlace "replayed") := ⟨rfl, rfl, fun _ => rfl⟩
  have h := run_repeats_suite true fresh (4, .new "suite") (7, .new "suite") filled apart 100 [] []
    (fun _ => none) (some "replayed") "lokibench.json" hmade hout
  rcases h.2 file (by decide) with ⟨hnone, -⟩ | hsome
  · exact absurd hnone (by decide)
  · unfold twoSpecsLive
    exact hsome

end BenchReport.Export
