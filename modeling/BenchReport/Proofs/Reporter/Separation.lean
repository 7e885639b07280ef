import BenchReport.Proofs.Reporter.Collection
import BenchReport.Proofs.Reporter.CsvPass
import BenchReport.Proofs.Reporter.Nesting
import BenchReport.Proofs.Reporter.SuiteRun

/-!
Reporters that write to different files do not disturb each other: what a run leaves at a place is
what the reporters that write there leave when they are told alone.
-/
namespace BenchReport

open FileName (csvName)

/-- A text was written under a path if a file could be opened there, and all else stays. -/
structure World.Wrote (path : String) (content : ByteArray) (before after : World) : Prop where
  clock : after.clock = before.clock
  rewrites : FileTree.Rewrites before.files after.files
  target {place : Place} (h : before.files.openForWriting path = .ok (.regular place)) :
    after.files.node? place = some (.file content)
  other {place : Place} (h : before.files.openForWriting path ≠ .ok (.regular place)) :
    after.files.node? place = before.files.node? place

/-- Two worlds that show the same at one place and differ elsewhere in regular files only. -/
structure World.Alike (base : FileTree) (place : Place) (a b : World) : Prop where
  clock : a.clock = b.clock
  left : FileTree.Rewrites base a.files
  right : FileTree.Rewrites base b.files
  node : a.files.node? place = b.files.node? place

namespace World

variable {base : FileTree} {place : Place} {path : String} {content : ByteArray}
  {a a' b b' : World}

theorem alike_refl (world : World) (place : Place) : Alike world.files place world world :=
  ⟨rfl, .refl _, .refl _, rfl⟩

/-- The same text written in two worlds. -/
theorem Wrote.alike (left : Wrote path content a a') (right : Wrote path content b b')
    (h : Alike base place a b) : Alike base place a' b' := by
  refine ⟨by rw [left.clock, right.clock, h.clock], h.left.trans left.rewrites,
    h.right.trans right.rewrites, ?_⟩
  by_cases hopen : base.openForWriting path = .ok (.regular place)
  · rw [left.target (h.left.regular_iff.mpr hopen), right.target (h.right.regular_iff.mpr hopen)]
  · have hleft : a.files.openForWriting path ≠ .ok (.regular place) :=
      fun h' => hopen (h.left.regular_iff.mp h')
    have hright : b.files.openForWriting path ≠ .ok (.regular place) :=
      fun h' => hopen (h.right.regular_iff.mp h')
    rw [left.other hleft, right.other hright, h.node]

/-- A text written elsewhere. -/
theorem Wrote.alike_elsewhere (left : Wrote path content a a')
    (helse : base.openForWriting path ≠ .ok (.regular place)) (h : Alike base place a b) :
    Alike base place a' b := by
  refine ⟨left.clock.trans h.clock, h.left.trans left.rewrites, h.right, ?_⟩
  have hopen : a.files.openForWriting path ≠ .ok (.regular place) :=
    fun h' => helse (h.left.regular_iff.mp h')
  rw [left.other hopen, h.node]

end World

open World (Alike)

variable {base : FileTree} {place : Place} {a b : World}

namespace CsvReporter

theorem writeSeries_world (reporter : CsvReporter) (name : String) (series : Series)
    (stats : ExportStats) (world : World) :
    world.Wrote (reporter.filePath name) (Csv.fileContent world.clock series.results)
      (reporter.writeSeries name series stats world).2 := by
  obtain ⟨clock, rewrites, target, other⟩ := writeSeries_wrote reporter name series stats world
  exact ⟨clock, rewrites, target, other⟩

/-- The counts so far do not decide what is written. -/
theorem writeEntries_alike (reporter : CsvReporter) (entries : List (String × Series))
    (left right : ExportStats) (h : Alike base place a b) :
    Alike base place (reporter.writeEntries entries left a).2
      (reporter.writeEntries entries right b).2 := by
  induction entries generalizing left right a b with
  | nil => exact h
  | cons entry rest ih =>
    have hleft := writeSeries_world reporter entry.1 entry.2 left a
    have hright := writeSeries_world reporter entry.1 entry.2 right b
    rw [h.clock] at hleft
    exact ih _ _ (hleft.alike hright h)

theorem writeEntries_elsewhere (reporter : CsvReporter) (entries : List (String × Series))
    (stats : ExportStats) (helse : ∀ name, ¬reporter.Targets base name place)
    (h : Alike base place a b) :
    Alike base place (reporter.writeEntries entries stats a).2 b := by
  induction entries generalizing stats a with
  | nil => exact h
  | cons entry rest ih =>
    have hfirst := writeSeries_world reporter entry.1 entry.2 stats a
    exact ih _ (hfirst.alike_elsewhere (helse entry.1) h)

end CsvReporter

namespace ExperimentReporter

theorem suiteDidEnd_world (reporter : ExperimentReporter) (suite : Suite) (world : World) :
    world.Wrote reporter.outputPath (reporter.fileText suite).toByteArray
      (reporter.notify (.suiteDidEnd suite) world).2 := by
  unfold notify
  cases hwrite : world.files.writeText reporter.outputPath (reporter.fileText suite) with
  | error e =>
    simp only [hwrite]
    refine ⟨rfl, .refl _, fun h => ?_, fun _ => rfl⟩
    simp [FileTree.writeText, FileTree.write, h] at hwrite
  | ok files =>
    simp only [hwrite]
    refine ⟨rfl, FileTree.writeText_rewrites hwrite, fun h => ?_, fun h => ?_⟩
    · simp only [FileTree.writeText, FileTree.write, h, Except.ok.injEq] at hwrite
      rw [World.tell, ← hwrite]
      exact FileTree.node?_put_self _ (FileTree.openForWriting_place_ne_nil h) _
    · rcases FileTree.writeText_cases hwrite with ⟨found, hopen, rfl⟩ | ⟨-, -, rfl⟩
      · refine FileTree.node?_put_of_ne _ ?_ _
        rintro rfl
        exact h hopen
      · rfl

end ExperimentReporter

namespace Reporter

/-- The reporter may write a file at a place. -/
def Writes (reporter : Reporter) (files : FileTree) (place : Place) : Prop :=
  match reporter with
  | csv r => ∃ name, r.Targets files name place
  | experiment r => files.openForWriting r.outputPath = .ok (.regular place)
  | quiet | observer _ => False

/-- What a reporter remembers does not depend on the world. -/
theorem act_reporter (hook : Hook) (reporter : Reporter) (a b : World) :
    (reporter.act hook a).1 = (reporter.act hook b).1 := by
  cases reporter with
  | csv r => rfl
  | experiment r =>
    cases hook with
    | suiteDidEnd suite => simp [act, ExperimentReporter.notify_suiteDidEnd]
    | _ => rfl
  | quiet => rfl
  | observer tag => rfl

theorem act_writes (hook : Hook) (reporter : Reporter) (world : World) :
    (reporter.act hook world).1.Writes base place ↔ reporter.Writes base place := by
  cases reporter with
  | csv r => rfl
  | experiment r =>
    cases hook with
    | suiteDidEnd suite => simp [act, ExperimentReporter.notify_suiteDidEnd]
    | _ => rfl
  | quiet => rfl
  | observer tag => rfl

/-- A hook leaves two worlds alike if they were. -/
theorem act_alike (hook : Hook) (reporter : Reporter) (h : Alike base place a b) :
    Alike base place (reporter.act hook a).2 (reporter.act hook b).2 := by
  cases reporter with
  | csv r =>
    cases hook with
    | specDidComplete spec =>
      obtain ⟨clock, left, right, node⟩ :=
        r.writeEntries_alike spec.measurements.entries .zero .zero h
      exact ⟨clock, left, right, node⟩
    | _ => exact h
  | experiment r =>
    cases hook with
    | suiteDidEnd suite => exact (r.suiteDidEnd_world suite a).alike (r.suiteDidEnd_world suite b) h
    | _ => exact h
  | quiet => exact h
  | observer tag => exact ⟨h.clock, h.left, h.right, h.node⟩

/-- A reporter that does not write to a place leaves it. -/
theorem act_elsewhere (hook : Hook) {reporter : Reporter} (helse : ¬reporter.Writes base place)
    (h : Alike base place a b) : Alike base place (reporter.act hook a).2 b := by
  cases reporter with
  | csv r =>
    cases hook with
    | specDidComplete spec =>
      obtain ⟨clock, left, right, node⟩ := r.writeEntries_elsewhere spec.measurements.entries .zero
        (fun name hname => helse ⟨name, hname⟩) h
      exact ⟨clock, left, right, node⟩
    | _ => exact h
  | experiment r =>
    cases hook with
    | suiteDidEnd suite => exact (r.suiteDidEnd_world suite a).alike_elsewhere helse h
    | _ => exact h
  | quiet => exact h
  | observer tag => exact ⟨h.clock, h.left, h.right, h.node⟩

open Classical in
/-- Those of some reporters that may write at a place. -/
noncomputable def writing (base : FileTree) (place : Place) (reporters : List Reporter) :
    List Reporter :=
  reporters.filter fun reporter => reporter.Writes base place

theorem writing_cons_of_writes {reporter : Reporter} (h : reporter.Writes base place)
    (rest : List Reporter) :
    writing base place (reporter :: rest) = reporter :: writing base place rest := by
  simp [writing, h]

theorem writing_cons_elsewhere {reporter : Reporter} (h : ¬reporter.Writes base place)
    (rest : List Reporter) : writing base place (reporter :: rest) = writing base place rest := by
  simp [writing, h]

theorem tell_writing (hook : Hook) (reporters : List Reporter) (h : Alike base place a b) :
    let all := Fanout.tell act hook reporters a
    let some := Fanout.tell act hook (writing base place reporters) b
    some.1 = writing base place all.1 ∧ Alike base place all.2 some.2 := by
  induction reporters generalizing a b with
  | nil => exact ⟨rfl, h⟩
  | cons first rest ih =>
    by_cases hwrites : first.Writes base place
    · have hafter := (act_writes hook first a).mpr hwrites
      obtain ⟨hrest, halike⟩ := ih (act_alike hook first h)
      rw [writing_cons_of_writes hwrites]
      refine ⟨?_, halike⟩
      simp only [Fanout.tell, writing_cons_of_writes hafter, hrest, act_reporter hook first b a]
    · have hafter := (act_writes hook first a).not.mpr hwrites
      obtain ⟨hrest, halike⟩ := ih (act_elsewhere hook hwrites h)
      rw [writing_cons_elsewhere hwrites]
      refine ⟨?_, halike⟩
      simp only [Fanout.tell, writing_cons_elsewhere hafter, hrest]

theorem tellAll_writing (hooks : List Hook) (reporters : List Reporter)
    (h : Alike base place a b) :
    Alike base place (Fanout.tellAll act reporters a hooks).2
      (Fanout.tellAll act (writing base place reporters) b hooks).2 := by
  induction hooks generalizing reporters a b with
  | nil => exact h
  | cons hook rest ih =>
    obtain ⟨hreporters, halike⟩ := tell_writing hook reporters h
    simp only [Fanout.tellAll, hreporters]
    exact ih _ halike

end Reporter

namespace Reporters

open Reporter (writing)

/-- Two runs show the same at a place if the same reporters write there. -/
theorem node?_run_congr {first second : Reporters} {world : World} {place : Place}
    (h : writing world.files place first.leaves = writing world.files place second.leaves)
    (hooks : List Hook) :
    (first.run world hooks).2.files.node? place = (second.run world hooks).2.files.node? place := by
  have halike := World.alike_refl world place
  have hfirst := (Reporter.tellAll_writing hooks first.leaves halike).node
  have hsecond := (Reporter.tellAll_writing hooks second.leaves halike).node
  rw [Fanout.run_leaves] at hfirst hsecond
  rw [run_eq, run_eq, hfirst, hsecond, h]

theorem leaves_pair (csvFirst : Bool) (dir : String) (collected : List Series) :
    (pair csvFirst dir collected).leaves =
      if csvFirst then [.csv ⟨dir⟩, .experiment ⟨dir, collected⟩]
      else [.experiment ⟨dir, collected⟩, .csv ⟨dir⟩] := by
  cases csvFirst with
  | true => rfl
  | false => rfl

section

variable {files : FileTree} {dir : String} {place dirPlace : Place} {collected : List Series}

theorem csv_inside (h : (Reporter.csv ⟨dir⟩).Writes files place) :
    ∃ dirPlace, files.joinPlace dir = .ok dirPlace ∧
      ∃ name, place = dirPlace ++ [(csvName name).toList] := by
  obtain ⟨name, hname⟩ := h
  obtain ⟨dirPlace, hdir, hplace⟩ := hname.inside
  exact ⟨dirPlace, hdir, name, hplace⟩

theorem experiment_inside (h : (Reporter.experiment ⟨dir, collected⟩).Writes files place) :
    ∃ dirPlace, files.joinPlace dir = .ok dirPlace ∧
      place = dirPlace ++ [Experiment.fileName.toList] := by
  obtain ⟨hresolve, -⟩ := FileTree.openForWriting_regular_iff.mp h
  obtain ⟨dirPlace, hdir, -, hplace⟩ :=
    FileTree.resolve_join_ok Experiment.fileName_plain hresolve
  exact ⟨dirPlace, hdir, hplace⟩

/-- The name of a series never leads to an experiment file. -/
theorem resolve_filePath_ne (files : FileTree) (dir name : String) (dirPlace : Place) :
    files.resolve ((CsvReporter.mk dir).filePath name) ≠
      .ok (dirPlace ++ [Experiment.fileName.toList]) := by
  intro h
  obtain ⟨other, -, -, hplace⟩ := FileTree.resolve_join_ok (FileName.csvName_plain name) h
  have hlast := congrArg List.getLast? hplace
  simp only [List.getLast?_append, List.getLast?_singleton, Option.some_or,
    Option.some.injEq] at hlast
  exact Csv.csvName_ne_fileName name hlast.symm

theorem csv_not_writes :
    ¬(Reporter.csv ⟨dir⟩).Writes files (dirPlace ++ [Experiment.fileName.toList]) := by
  rintro ⟨name, hname⟩
  obtain ⟨hresolve, -⟩ := FileTree.openForWriting_regular_iff.mp hname
  exact resolve_filePath_ne files dir name dirPlace hresolve

theorem experiment_not_writes {file : List Char} (hdir : files.joinPlace dir = .ok dirPlace)
    (hfile : file ≠ Experiment.fileName.toList) :
    ¬(Reporter.experiment ⟨dir, collected⟩).Writes files (dirPlace ++ [file]) := by
  intro h
  obtain ⟨other, hother, hplace⟩ := experiment_inside h
  rw [hdir, Except.ok.injEq] at hother
  subst hother
  simp only [List.append_cancel_left_eq, List.cons.injEq, and_true] at hplace
  exact hfile hplace

end

/-- Where the experiment reporter does not write, a pair is its CSV reporter. -/
theorem writing_pair_csv {files : FileTree} {place : Place} {dir : String}
    {collected : List Series} (h : ¬(Reporter.experiment ⟨dir, collected⟩).Writes files place)
    (csvFirst : Bool) :
    writing files place (pair csvFirst dir collected).leaves =
      writing files place [.csv ⟨dir⟩] := by
  rw [leaves_pair]
  cases csvFirst with
  | true => simp [writing, List.filter_cons, h]
  | false => simp [writing, h]

/-- Where the CSV reporter does not write, a pair is its experiment reporter. -/
theorem writing_pair_experiment {files : FileTree} {place : Place} {dir : String}
    {collected : List Series} (h : ¬(Reporter.csv ⟨dir⟩).Writes files place) (csvFirst : Bool) :
    writing files place (pair csvFirst dir collected).leaves =
      writing files place [.experiment ⟨dir, collected⟩] := by
  rw [leaves_pair]
  cases csvFirst with
  | true => simp [writing, h]
  | false => simp [writing, List.filter_cons, h]

theorem writing_pair_comm (files : FileTree) (place : Place) (dir : String)
    (collected : List Series) :
    writing files place (pair true dir collected).leaves =
      writing files place (pair false dir collected).leaves := by
  by_cases h : (Reporter.experiment ⟨dir, collected⟩).Writes files place
  · obtain ⟨dirPlace, -, rfl⟩ := experiment_inside h
    rw [writing_pair_experiment csv_not_writes, writing_pair_experiment csv_not_writes]
  · rw [writing_pair_csv h, writing_pair_csv h]

/-- A place at which no reporter writes stays as it was. -/
theorem node?_run_elsewhere {reporters : Reporters} {world : World} {place : Place}
    (h : writing world.files place reporters.leaves = []) (hooks : List Hook) :
    (reporters.run world hooks).2.files.node? place = world.files.node? place := by
  have halike := Reporter.tellAll_writing hooks reporters.leaves (World.alike_refl world place)
  have hnode := halike.node
  rw [h, Fanout.tellAll_nil, Fanout.run_leaves] at hnode
  rw [run_eq, hnode]

/-- A CSV reporter and an experiment reporter on one directory leave the same files in either
order. Each of them leaves what it leaves alone: the experiment reporter the experiment file, to
which no name of a series leads, and the CSV reporter all others. -/
theorem run_pair_apart (dir : String) (world : World) (hooks : List Hook) :
    let csvAlone := (Reporters.run (.leaf (.csv ⟨dir⟩)) world hooks).2.files
    let experimentAlone := (Reporters.run (.leaf (.experiment (.new dir))) world hooks).2.files
    let both (csvFirst : Bool) := (Reporters.run (pair csvFirst dir []) world hooks).2.files
    let experimentFile := Experiment.fileName.toList
    (∀ place, (both true).node? place = (both false).node? place) ∧
    (∀ csvFirst dirPlace, world.files.joinPlace dir = .ok dirPlace →
      (∀ file, file ≠ experimentFile →
        (both csvFirst).node? (dirPlace ++ [file]) = csvAlone.node? (dirPlace ++ [file])) ∧
      (both csvFirst).node? (dirPlace ++ [experimentFile]) =
        experimentAlone.node? (dirPlace ++ [experimentFile])) ∧
    (∀ csvFirst place, (both csvFirst).node? place ≠ world.files.node? place →
      ∃ dirPlace, world.files.joinPlace dir = .ok dirPlace ∧
        (place = dirPlace ++ [experimentFile] ∨
          ∃ name, place = dirPlace ++ [(csvName name).toList])) ∧
    ∀ dirPlace,
      csvAlone.node? (dirPlace ++ [experimentFile]) =
        world.files.node? (dirPlace ++ [experimentFile]) ∧
      ∀ name, world.files.resolve ((CsvReporter.mk dir).filePath name) ≠
        .ok (dirPlace ++ [experimentFile]) := by
  intro csvAlone experimentAlone both experimentFile
  refine ⟨fun place => node?_run_congr (writing_pair_comm world.files place dir []) hooks, ?_, ?_,
    fun dirPlace => ⟨?_, fun name => resolve_filePath_ne world.files dir name dirPlace⟩⟩
  · intro csvFirst dirPlace hdir
    constructor
    · intro file hfile
      exact node?_run_congr (writing_pair_csv (experiment_not_writes hdir hfile) csvFirst) hooks
    · exact node?_run_congr (writing_pair_experiment csv_not_writes csvFirst) hooks
  · intro csvFirst place hchanged
    by_cases hcsv : (Reporter.csv ⟨dir⟩).Writes world.files place
    · obtain ⟨dirPlace, hdir, hname⟩ := csv_inside hcsv
      exact ⟨dirPlace, hdir, .inr hname⟩
    · by_cases hexperiment : (Reporter.experiment ⟨dir, []⟩).Writes world.files place
      · obtain ⟨dirPlace, hdir, hplace⟩ := experiment_inside hexperiment
        exact ⟨dirPlace, hdir, .inl hplace⟩
      · refine absurd (node?_run_elsewhere ?_ hooks) hchanged
        rw [writing_pair_csv hexperiment]
        simp [writing, hcsv]
  · refine node?_run_elsewhere ?_ hooks
    have hnot : ¬(Reporter.csv ⟨dir⟩).Writes world.files (dirPlace ++ [experimentFile]) :=
      csv_not_writes
    simp [Fanout.leaves, writing, hnot]

/-- A directory with an experiment file of no experiments. -/
def filledWorld : World :=
  .ofFiles ⟨["bench".toList], [(["bench".toList], .directory),
    (["bench".toList, "live".toList], .directory),
    (["bench".toList, "live".toList, Experiment.fileName.toList], .file "[]".toByteArray)]⟩ 7

/-- A suite with a series that is called like the experiment file. -/
def namesakeHooks : List Hook :=
  [.suiteWillBegin (.new "suite"),
    .specDidComplete ((Spec.new ["spec"]).insertSeries ⟨Experiment.fileName, "ops", [], [.zero]⟩),
    .suiteDidEnd (.new "suite")]

theorem run_pair_apart_namesake :
    let live : Place := ["bench".toList, "live".toList]
    let csvPlace := live ++ ["measurements.json.csv".toList]
    let experimentPlace := live ++ [Experiment.fileName.toList]
    let both := (Reporters.run (pair false "live" []) filledWorld namesakeHooks).2.files
    both.node? csvPlace = some (.file "7,0.000000\n".toByteArray) ∧
      both.node? experimentPlace =
        (Reporters.run (.leaf (.experiment (.new "live"))) filledWorld
          namesakeHooks).2.files.node? experimentPlace ∧
      ∃ dirPlace, filledWorld.files.joinPlace "live" = .ok dirPlace ∧
        (csvPlace = dirPlace ++ [Experiment.fileName.toList] ∨
          ∃ name, csvPlace = dirPlace ++ [(csvName name).toList]) := by
  intro live csvPlace experimentPlace both
  obtain ⟨-, halone, hchanged, -⟩ := run_pair_apart "live" filledWorld namesakeHooks
  have hlive : filledWorld.files.joinPlace "live" = .ok live := rfl
  obtain ⟨hcsv, hexperiment⟩ := halone false live hlive
  have hrow : (Reporters.run (.leaf (.csv ⟨"live"⟩)) filledWorld namesakeHooks).2.files.node?
      csvPlace = some (.file "7,0.000000\n".toByteArray) := by decide +kernel
  have hboth : both.node? csvPlace = some (.file "7,0.000000\n".toByteArray) :=
    (hcsv "measurements.json.csv".toList (by decide)).trans hrow
  have hnew : both.node? csvPlace ≠ filledWorld.files.node? csvPlace := by
    rw [hboth]
    decide
  exact ⟨hboth, hexperiment, hchanged false csvPlace hnew⟩

end Reporters

end BenchReport
