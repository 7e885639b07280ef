import BenchReport.Proofs.Export.Loss
import BenchReport.Proofs.Reporter.CsvPass

/-!
What can go wrong in an export. It stops before it writes anything or not at all: once its input
is read, no file that cannot be written takes anything from its count.
-/
namespace BenchReport.Export

open FileName (csvName)

/-! ## What is counted -/

/-- The number of different names in an experiment. -/
def distinctNames (experiment : Experiment) : Nat :=
  (experiment.measurements.map Series.name).dedup.length

theorem mem_names_specOf {experiment : Experiment} {name : String} :
    name ∈ (specOf experiment).measurements.names ↔
      name ∈ experiment.measurements.map Series.name := by
  constructor
  · intro h
    obtain ⟨entry, hentry, rfl⟩ := List.mem_map.mp h
    obtain ⟨hseries, hname⟩ := name_of_mem_exported hentry
    exact List.mem_map.mpr ⟨entry.2, hseries, hname⟩
  · intro h
    obtain ⟨series, hseries, rfl⟩ := List.mem_map.mp h
    obtain ⟨other, hother⟩ := exists_mem_exported hseries
    exact List.mem_map.mpr ⟨_, hother, rfl⟩

theorem size_specOf (experiment : Experiment) :
    (specOf experiment).measurements.size = distinctNames experiment :=
  NameMap.size_eq_length_dedup fun _ => mem_names_specOf

/-- Every experiment counts in full, whatever became of its files. -/
theorem writeAll_count (reporter : CsvReporter) (experiments : List Experiment) (count : Nat)
    (world : World) :
    (writeAll reporter experiments count world).1 =
      count + (experiments.map distinctNames).sum := by
  induction experiments generalizing count world with
  | nil => rfl
  | cons experiment rest ih =>
    rw [writeAll, ih, size_specOf, List.map_cons, List.sum_cons, Nat.add_assoc]

/-! ## What is written -/

/-- One experiment writes regular files only, and only those of its own series. -/
theorem notify_files (reporter : CsvReporter) (spec : Spec) (world : World) :
    FileTree.Rewrites world.files (reporter.notify (.specDidComplete spec) world).files ∧
      ∀ place, (∀ entry ∈ spec.measurements.entries,
          ¬reporter.Targets world.files entry.1 place) →
        (reporter.notify (.specDidComplete spec) world).files.node? place =
          world.files.node? place :=
  ⟨(CsvReporter.writeEntries_rewrites spec.measurements.entries .zero world).2,
    fun _ h => CsvReporter.writeEntries_other .zero h⟩

theorem writeAll_rewrites (reporter : CsvReporter) (experiments : List Experiment) (count : Nat)
    (world : World) :
    FileTree.Rewrites world.files (writeAll reporter experiments count world).2.files := by
  induction experiments generalizing count world with
  | nil => exact .refl _
  | cons experiment rest ih =>
    exact (notify_files reporter (specOf experiment) world).1.trans (ih _ _)

/-- What all experiments leave alone. -/
theorem writeAll_other {reporter : CsvReporter} {experiments : List Experiment} {place : Place}
    (count : Nat) {world : World}
    (h : ∀ experiment ∈ experiments, ∀ series ∈ experiment.measurements,
      ¬reporter.Targets world.files series.name place) :
    (writeAll reporter experiments count world).2.files.node? place =
      world.files.node? place := by
  induction experiments generalizing count world with
  | nil => rfl
  | cons experiment rest ih =>
    obtain ⟨hfirst, hrest⟩ := List.forall_mem_cons.mp h
    obtain ⟨rewrites, hother⟩ := notify_files reporter (specOf experiment) world
    have hentries : ∀ entry ∈ (specOf experiment).measurements.entries,
        ¬reporter.Targets world.files entry.1 place := by
      intro entry hentry
      obtain ⟨hseries, hname⟩ := name_of_mem_exported hentry
      rw [← hname]
      exact hfirst entry.2 hseries
    have hlater : ∀ later ∈ rest, ∀ series ∈ later.measurements, ¬reporter.Targets
        (reporter.notify (.specDidComplete (specOf experiment)) world).files series.name place :=
      fun later hlater series hseries htargets =>
        hrest later hlater series hseries (rewrites.regular_iff.mp htargets)
    exact (ih _ hlater).trans (hother place hentries)

/-! ## When it stops -/

/-- What stops an export: a directory that cannot be made, an input without text, and a text
without experiments. -/
inductive Stops (files : FileTree) (dir input : String) : ExportError → Prop
  | directory {e : FileError} : files.createDirectories dir = .error e →
    Stops files dir input (.directory e)
  | unreadable {made : FileTree} {e : FileError} : files.createDirectories dir = .ok made →
    made.readText input = .error e → Stops files dir input (.input (.file e))
  | undecodable {made : FileTree} {text : String} {problem : Json.Problem} :
    files.createDirectories dir = .ok made → made.readText input = .ok text →
    Experiment.parse text = .error problem → Stops files dir input (.input (.content problem))

/-- The report directory is made, and the input is read to its end. -/
structure Ready (files : FileTree) (dir input : String) (made : FileTree)
    (experiments : List Experiment) : Prop where
  directory : files.createDirectories dir = .ok made
  content : ∃ text, made.readText input = .ok text ∧ Experiment.parse text = .ok experiments

theorem stops_or_ready (files : FileTree) (dir input : String) :
    (∃ e, Stops files dir input e) ∨
      ∃ made experiments, Ready files dir input made experiments := by
  cases hmade : files.createDirectories dir with
  | error e => exact .inl ⟨_, .directory hmade⟩
  | ok made =>
    cases htext : made.readText input with
    | error e => exact .inl ⟨_, .unreadable hmade htext⟩
    | ok text =>
      cases hparse : Experiment.parse text with
      | error problem => exact .inl ⟨_, .undecodable hmade htext hparse⟩
      | ok experiments => exact .inr ⟨made, experiments, hmade, text, htext, hparse⟩

section

variable {world : World} {env : Settings.Environment} {input : String}
  {reportDir : Option String} {configPath : String}

/-- An export that is stopped has at most made directories. -/
theorem run_stops {e : ExportError}
    (h : Stops world.files (settings world.files env reportDir configPath).1.reportDir input e) :
    (run world env input reportDir configPath).1 = .error e ∧
      FileTree.Makes world.files (run world env input reportDir configPath).2.files := by
  unfold run
  cases h with
  | directory hmade =>
    simp only [hmade]
    exact ⟨trivial, .refl _⟩
  | unreadable hmade htext =>
    simp only [hmade, Experiment.load, FileTree.readJson, htext]
    exact ⟨trivial, FileTree.createDirectories_makes hmade⟩
  | undecodable hmade htext hparse =>
    rw [Experiment.parse] at hparse
    simp only [hmade, Experiment.load, FileTree.readJson, htext, hparse]
    exact ⟨trivial, FileTree.createDirectories_makes hmade⟩

/-- An export that is not stopped counts all its series, and only their files are written. -/
theorem run_ready {made : FileTree} {experiments : List Experiment}
    (h : Ready world.files (settings world.files env reportDir configPath).1.reportDir input made
      experiments) :
    let dir := (settings world.files env reportDir configPath).1.reportDir
    let after := run world env input reportDir configPath
    after.1 = .ok (experiments.map distinctNames).sum ∧
      FileTree.Makes world.files made ∧ FileTree.Rewrites made after.2.files ∧
      ∀ place, after.2.files.node? place ≠ made.node? place →
        ∃ experiment ∈ experiments, ∃ series ∈ experiment.measurements,
          (CsvReporter.mk dir).Targets made series.name place := by
  intro dir after
  obtain ⟨hmade, text, htext, hparse⟩ := h
  have hload : Experiment.load made input = .ok experiments :=
    FileTree.readJson_ok.mpr ⟨text, htext, hparse⟩
  -- Writing begins once the directory is made and trouble with the settings is told.
  let told := (settings world.files env reportDir configPath).2
  let start : World := { world with files := made, log := world.log ++ told }
  have hafter : after = (.ok (writeAll ⟨dir⟩ experiments 0 start).1,
      (writeAll ⟨dir⟩ experiments 0 start).2.tell
        (.exportFinished input dir (writeAll ⟨dir⟩ experiments 0 start).1)) := by
    simp only [after, run, hmade, hload, start, told, dir]
  rw [hafter, writeAll_count, Nat.zero_add]
  refine ⟨rfl, FileTree.createDirectories_makes hmade, writeAll_rewrites ⟨dir⟩ experiments 0 start,
    fun place hchanged => ?_⟩
  apply Classical.byContradiction
  intro hnone
  exact hchanged (writeAll_other 0 fun experiment hexperiment series hseries htargets =>
    hnone ⟨experiment, hexperiment, series, hseries, htargets⟩)

theorem run_error_iff {e : ExportError} :
    (run world env input reportDir configPath).1 = .error e ↔
      Stops world.files (settings world.files env reportDir configPath).1.reportDir input e := by
  constructor
  · intro herror
    rcases stops_or_ready world.files (settings world.files env reportDir configPath).1.reportDir
      input with ⟨other, hstops⟩ | ⟨made, experiments, hready⟩
    · obtain rfl := Except.error.inj ((run_stops hstops).1.symm.trans herror)
      exact hstops
    · cases (run_ready hready).1.symm.trans herror
  · exact fun hstops => (run_stops hstops).1

theorem run_ok_iff {count : Nat} :
    (run world env input reportDir configPath).1 = .ok count ↔
      ∃ made experiments,
        Ready world.files (settings world.files env reportDir configPath).1.reportDir input made
          experiments ∧ count = (experiments.map distinctNames).sum := by
  constructor
  · intro hok
    rcases stops_or_ready world.files (settings world.files env reportDir configPath).1.reportDir
      input with ⟨e, hstops⟩ | ⟨made, experiments, hready⟩
    · cases (run_stops hstops).1.symm.trans hok
    · have hcount := Except.ok.inj ((run_ready hready).1.symm.trans hok)
      exact ⟨made, experiments, hready, hcount.symm⟩
  · rintro ⟨made, experiments, hready, rfl⟩
    exact (run_ready hready).1

/-- What is new after an export are directories, and CSV files of the series that were read. -/
theorem run_changed {place : Place}
    (h : (run world env input reportDir configPath).2.files.node? place ≠
      world.files.node? place) :
    let dir := (settings world.files env reportDir configPath).1.reportDir
    let after := (run world env input reportDir configPath).2.files
    (world.files.node? place = none ∧ after.node? place = some .directory) ∨
      ∃ made experiments, Ready world.files dir input made experiments ∧
        ∃ experiment ∈ experiments, ∃ series ∈ experiment.measurements, ∃ dirPlace content,
          after.joinPlace dir = .ok dirPlace ∧
          place = dirPlace ++ [(csvName series.name).toList] ∧
          after.node? place = some (.file content) := by
  intro dir after
  rcases stops_or_ready world.files dir input with ⟨e, hstops⟩ | ⟨made, experiments, hready⟩
  · exact .inl (((run_stops hstops).2.node place).resolve_left h)
  · obtain ⟨-, makes, rewrites, htargets⟩ := run_ready hready
    by_cases hsame : after.node? place = made.node? place
    · rw [hsame]
      refine .inl ((makes.node place).resolve_left fun hbefore => h ?_)
      exact hsame.trans hbefore
    · obtain ⟨experiment, hexperiment, series, hseries, htarget⟩ := htargets place hsame
      obtain ⟨dirPlace, hdir, hplace⟩ := htarget.inside
      obtain ⟨-, -, content, hcontent⟩ := (rewrites.node place).resolve_left hsame
      exact .inr ⟨made, experiments, hready, experiment, hexperiment, series, hseries, dirPlace,
        content, rewrites.keeps.joinPlace hdir, hplace, hcontent⟩

end

/-- An export either is stopped, and then no file is written, or counts the different names of
every experiment, whatever becomes of the files. Then it writes the files of its series, right
inside the report directory, and no others. -/
theorem run_settled (world : World) (env : Settings.Environment) (input : String)
    (reportDir : Option String) (configPath : String) :
    let dir := (settings world.files env reportDir configPath).1.reportDir
    let after := run world env input reportDir configPath
    (∀ e, after.1 = .error e ↔ Stops world.files dir input e) ∧
    (∀ count, after.1 = .ok count ↔ ∃ made experiments,
      Ready world.files dir input made experiments ∧
        count = (experiments.map distinctNames).sum) ∧
    (∀ e, after.1 = .error e → ∀ place node, node ≠ .directory →
      (after.2.files.node? place = some node ↔ world.files.node? place = some node)) ∧
    ∀ place, after.2.files.node? place ≠ world.files.node? place →
      (world.files.node? place = none ∧ after.2.files.node? place = some .directory) ∨
      ∃ made experiments, Ready world.files dir input made experiments ∧
        ∃ experiment ∈ experiments, ∃ series ∈ experiment.measurements, ∃ dirPlace content,
          after.2.files.joinPlace dir = .ok dirPlace ∧
          place = dirPlace ++ [(csvName series.name).toList] ∧
          after.2.files.node? place = some (.file content) := by
  intro dir after
  refine ⟨fun e => run_error_iff, fun count => run_ok_iff, fun e herror place node hnode => ?_,
    fun place => run_changed⟩
  exact (run_stops (run_error_iff.mp herror)).2.node_iff hnode

/-- A report directory with something where the file of a push rate belongs, and an input. -/
def reportWorld (node : FileNode) (input : Json.Value) : World :=
  .ofFiles ⟨["bench".toList], [(["bench".toList], .directory),
    (["bench".toList, "out".toList], .directory),
    (["bench".toList, "out".toList, "push-rate.csv".toList], node),
    (["bench".toList, "measurements.json".toList], .file input.compactText.toByteArray)]⟩ 0

/-- A list of two experiments, of which the last has a sample that is no number. -/
def brokenInput : Json.Value :=
  .list [Experiment.toJson ⟨"first", [⟨"push rate", "ops", [], []⟩]⟩,
    .object [("Name", .string "last"), ("Measurements", .list [
      .object [("Name", .string "cpu"), ("Units", .string "m"), ("Annotations", .list []),
        ("Values", .list [.string "1,5"])]])]]

theorem createDirectories_reportWorld (node : FileNode) (input : Json.Value) :
    (reportWorld node input).files.createDirectories "out" =
      .ok (reportWorld node input).files := rfl

theorem readText_reportWorld (node : FileNode) (input : Json.Value) :
    (reportWorld node input).files.readText "measurements.json" = .ok input.compactText := by
  have hplace : (reportWorld node input).files.resolve "measurements.json" =
    .ok ["bench".toList, "measurements.json".toList] := rfl
  exact FileTree.readText_file hplace rfl

theorem parse_brokenInput :
    ∃ problem, Experiment.parse brokenInput.compactText = .error problem := by
  rw [Experiment.parse, Json.Value.decodeText_compactText]
  exact ⟨_, rfl⟩

/-- A file that cannot be written counts, and a sample that is no number at the very end keeps an
older file of the first experiment. -/
theorem run_settled_reportWorld :
    let blocked := reportWorld .directory (Experiment.fileJson [twoRates])
    let older := reportWorld (.file "1,1.000000\n".toByteArray) brokenInput
    (run blocked (fun _ => none) "measurements.json" (some "out") "lokibench.json").1 = .ok 2 ∧
      (∃ e, (run older (fun _ => none) "measurements.json" (some "out") "lokibench.json").1 =
        .error e) ∧
      (run older (fun _ => none) "measurements.json" (some "out")
          "lokibench.json").2.files.node? ["bench".toList, "out".toList, "push-rate.csv".toList] =
        some (.file "1,1.000000\n".toByteArray) := by
  intro blocked older
  obtain ⟨-, hok, -, -⟩ := run_settled blocked (fun _ => none) "measurements.json" (some "out")
    "lokibench.json"
  obtain ⟨herror, -, hkept, -⟩ := run_settled older (fun _ => none) "measurements.json" (some "out")
    "lokibench.json"
  obtain ⟨problem, hproblem⟩ := parse_brokenInput
  have hparse : Experiment.parse (Experiment.fileJson [twoRates]).compactText = .ok [twoRates] := by
    rw [Experiment.parse, Json.Value.decodeText_compactText, Experiment.decode_file]
  have hready : Ready blocked.files "out" "measurements.json" blocked.files [twoRates] :=
    ⟨createDirectories_reportWorld _ _, _, readText_reportWorld _ _, hparse⟩
  have hcount : 2 = ([twoRates].map distinctNames).sum := by decide
  have hstops : Stops older.files "out" "measurements.json" (.input (.content problem)) :=
    .undecodable (createDirectories_reportWorld _ _) (readText_reportWorld _ _) hproblem
  have hstopped := (herror _).mpr hstops
  have hfile : FileNode.file "1,1.000000\n".toByteArray ≠ .directory := by
    intro h
    cases h
  have hbefore : older.files.node? ["bench".toList, "out".toList, "push-rate.csv".toList] =
    some (.file "1,1.000000\n".toByteArray) := rfl
  have hafter := (hkept _ hstopped _ _ hfile).mpr hbefore
  exact ⟨(hok 2).mpr ⟨_, _, hready, hcount⟩, ⟨_, hstopped⟩, hafter⟩

end BenchReport.Export
