import BenchReport.Export
import BenchReport.Proofs.File.Tree
import BenchReport.Proofs.Json.RoundTrip
import BenchReport.Proofs.Reporter.Settings

/-!
The settings of an export, layer by layer: those of the file or the standard ones, over them the
variables, and over the variable of the directory the one given outright.
-/
namespace BenchReport.Export

open Settings

section

variable (files : FileTree) (env : Environment) (given : Option String) (path : String)

theorem settings_reportDir :
    (settings files env given path).1.reportDir =
      given.getD ((nonempty? (env "LOKIBENCH_REPORT_DIR")).getD
        (loadOrStandard files path).1.reportDir) := rfl

theorem settings_csv :
    (settings files env given path).1.csv =
      (flag? (env "LOKIBENCH_CSV_REPORTER")).getD (loadOrStandard files path).1.csv := rfl

theorem settings_json :
    (settings files env given path).1.json =
      (flag? (env "LOKIBENCH_JSON_REPORTER")).getD (loadOrStandard files path).1.json := rfl

/-- Over the settings of an export, its layers change nothing. -/
theorem override_settings :
    let effective := (settings files env given path).1
    { effective.override env with
      reportDir := given.getD (effective.override env).reportDir } = effective := by
  cases given <;>
    simp only [settings, override, ← Option.getD_or, Option.or_self, Option.none_or,
      Option.some_or]

end

/-- A switch that its variable turns is the same over everything. -/
theorem flag?_getD {value : Option String} (h : value = some "true" ∨ value = some "false")
    (below below' : Bool) : (flag? value).getD below = (flag? value).getD below' := by
  rcases h with rfl | rfl <;> rfl

/-- A directory that is given, or stands in its variable, is the same over everything. -/
theorem directory_getD {given value : Option String}
    (h : given ≠ none ∨ ∃ dir ≠ "", value = some dir) (below below' : String) :
    given.getD ((nonempty? value).getD below) = given.getD ((nonempty? value).getD below') := by
  cases given with
  | some dir => rfl
  | none =>
    obtain ⟨dir, hdir, rfl⟩ := h.resolve_left fun hgiven => hgiven rfl
    rw [nonempty?_some hdir]
    rfl

/-- Every setting of an export is that of the highest layer with a sensible value for it. It is
the same whatever stands in lower layers or for other settings, and overriding it again changes
nothing. -/
theorem settings_layers (files : FileTree) (env : Environment) (given : Option String)
    (path : String) :
    let effective := (settings files env given path).1
    (∃ base, (∀ s, Base files path s ↔ s = base) ∧
      (∀ dir, DirectoryOver base.reportDir given (env "LOKIBENCH_REPORT_DIR") dir ↔
        effective.reportDir = dir) ∧
      (∀ b, SwitchOver base.csv (env "LOKIBENCH_CSV_REPORTER") b ↔ effective.csv = b) ∧
      ∀ b, SwitchOver base.json (env "LOKIBENCH_JSON_REPORTER") b ↔ effective.json = b) ∧
    (∀ otherFiles otherEnv otherPath, let other := (settings otherFiles otherEnv given otherPath).1
      (otherEnv "LOKIBENCH_REPORT_DIR" = env "LOKIBENCH_REPORT_DIR" →
        (given ≠ none ∨ ∃ dir ≠ "", env "LOKIBENCH_REPORT_DIR" = some dir) →
          other.reportDir = effective.reportDir) ∧
      (otherEnv "LOKIBENCH_CSV_REPORTER" = env "LOKIBENCH_CSV_REPORTER" →
        (env "LOKIBENCH_CSV_REPORTER" = some "true" ∨
          env "LOKIBENCH_CSV_REPORTER" = some "false") → other.csv = effective.csv) ∧
      (otherEnv "LOKIBENCH_JSON_REPORTER" = env "LOKIBENCH_JSON_REPORTER" →
        (env "LOKIBENCH_JSON_REPORTER" = some "true" ∨
          env "LOKIBENCH_JSON_REPORTER" = some "false") → other.json = effective.json)) ∧
    (∀ s : Settings, (s.override env).override env = s.override env) ∧
    { effective.override env with
      reportDir := given.getD (effective.override env).reportDir } = effective := by
  intro effective
  refine ⟨⟨(loadOrStandard files path).1, fun s => base_iff, fun dir => directoryOver_iff,
    fun b => switchOver_iff, fun b => switchOver_iff⟩, ?_, fun s => override_override s env,
    override_settings files env given path⟩
  intro otherFiles otherEnv otherPath other
  refine ⟨fun hvalue hset => ?_, fun hvalue hset => ?_, fun hvalue hset => ?_⟩
  · rw [settings_reportDir, settings_reportDir, hvalue]
    exact directory_getD hset _ _
  · rw [settings_csv, settings_csv, hvalue]
    exact flag?_getD hset _ _
  · rw [settings_json, settings_json, hvalue]
    exact flag?_getD hset _ _

/-- A working directory with a file of settings. -/
def settingsFiles (value : Json.Value) : FileTree :=
  ⟨["bench".toList], [(["bench".toList], .directory),
    (["bench".toList, "reporters.json".toList], .file value.compactText.toByteArray)]⟩

theorem load_settingsFiles (value : Json.Value) :
    load (settingsFiles value) "reporters.json" =
      (decoder value.tree).mapError .content := by
  have hplace : (settingsFiles value).resolve "reporters.json" =
    .ok ["bench".toList, "reporters.json".toList] := rfl
  unfold load FileTree.readJson
  rw [FileTree.readText_file hplace rfl]
  simp only [Json.Value.decodeText_compactText]
  cases decoder value.tree <;> rfl

/-- A file that names two of the three settings. -/
def partialFiles : FileTree :=
  settingsFiles (.object [("report_dir", .string "kept"), ("csv", .bool false)])

/-- A file with a directory, and with a word in the place of a switch. -/
def brokenFiles : FileTree :=
  settingsFiles (.object [("report_dir", .string "lost"), ("csv", .string "no")])

/-- An empty directory, a word that is no truth value, and one that is. -/
def mixedVariables : Environment
  | "LOKIBENCH_REPORT_DIR" => some ""
  | "LOKIBENCH_CSV_REPORTER" => some "TRUE"
  | "LOKIBENCH_JSON_REPORTER" => some "false"
  | _ => none

theorem base_partialFiles : Base partialFiles "reporters.json" ⟨"kept", false, true⟩ :=
  base_iff.mpr (loadOrStandard_ok (load_settingsFiles _)).symm

/-- The file keeps its directory and its switch under variables that make no sense, and the other
switch is turned off also over a file that gives nothing. -/
theorem settings_layers_mixedVariables :
    mixedVariables "LOKIBENCH_JSON_REPORTER" = some "false" ∧
      (settings partialFiles mixedVariables none "reporters.json").1 = ⟨"kept", false, false⟩ ∧
      (settings brokenFiles mixedVariables none "reporters.json").1.json = false := by
  obtain ⟨⟨base, hbase, hdir, hcsv, hjson⟩, hother, -⟩ :=
    settings_layers partialFiles mixedVariables none "reporters.json"
  obtain rfl := (hbase _).mp base_partialFiles
  have hkept := (hdir "kept").mp .empty
  have hfile := (hcsv false).mp (.otherwise _ (by decide) (by decide))
  have hoff := (hjson false).mp .off
  have hsame := (hother brokenFiles mixedVariables "reporters.json").2.2 rfl (.inr rfl)
  exact ⟨rfl, eq_mk hkept hfile hoff, hsame.trans hoff⟩

end BenchReport.Export
