import BenchReport.Reporter.Settings

/-! Exporting the series of an experiment file to CSV files. -/
namespace BenchReport.Export

/-- The spec that an experiment stands for: it has its name and its series. -/
def specOf (experiment : Experiment) : Spec :=
  experiment.measurements.foldl Spec.insertSeries (Spec.new [experiment.name])

/-- The settings of an export: those of a file, overridden by variables and by a directory given
outright. -/
def settings (files : FileTree) (env : Settings.Environment) (reportDir : Option String)
    (configPath : String) : Settings × List Event :=
  let (base, told) := Settings.loadOrStandard files configPath
  let base := base.override env
  ({ base with reportDir := reportDir.getD base.reportDir }, told)

/-- Hands every experiment to a reporter in turn, and counts the series. -/
def writeAll (reporter : CsvReporter) : List Experiment → Nat → World → Nat × World
  | [], count, world => (count, world)
  | experiment :: rest, count, world =>
    let spec := specOf experiment
    writeAll reporter rest (count + spec.measurements.size)
      (reporter.notify (.specDidComplete spec) world)

/-- Why nothing is exported. -/
inductive ExportError
  | directory (e : FileError)
  | input (e : ReadError)

/-- Exports an experiment file into the report directory, which is made where it is missing, and
counts its series. What was told goes into the log, also where the export fails. -/
def run (world : World) (env : Settings.Environment) (input : String) (reportDir : Option String)
    (configPath : String) : Except ExportError Nat × World :=
  let (settings, told) := settings world.files env reportDir configPath
  let world := { world with log := world.log ++ told }
  match world.files.createDirectories settings.reportDir with
  | .error e => (.error (.directory e), world)
  | .ok files =>
    let world := { world with files := files }
    match Experiment.load world.files input with
    | .error e => (.error (.input e), world)
    | .ok experiments =>
      let (count, world) := writeAll ⟨settings.reportDir⟩ experiments 0 world
      (.ok count, world.tell (.exportFinished input settings.reportDir count))

end BenchReport.Export
