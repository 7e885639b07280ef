import BenchReport.Experiment
import BenchReport.Reporter.Basic

/-! The series of a suite as one experiment file, written when the suite ends. -/
namespace BenchReport

/-- Why a JSON file is not read. -/
inductive ReadError
  | file (e : FileError)
  | content (problem : Json.Problem)

def FileTree.readJson {α : Type} (tree : FileTree) (decoder : Json.Decoder α) (path : String) :
    Except ReadError α :=
  match tree.readText path with
  | .error e => .error (.file e)
  | .ok text =>
    match Json.decodeText decoder text with
    | .error problem => .error (.content problem)
    | .ok x => .ok x

theorem FileTree.readJson_ok {α : Type} {tree : FileTree} {decoder : Json.Decoder α}
    {path : String} {x : α} :
    tree.readJson decoder path = .ok x ↔
      ∃ text, tree.readText path = .ok text ∧ Json.decodeText decoder text = .ok x := by
  rw [readJson]
  cases tree.readText path with
  | error e => simp
  | ok text => cases hdecode : Json.decodeText decoder text <;> simp [hdecode]

def Experiment.load (tree : FileTree) (path : String) : Except ReadError (List Experiment) :=
  tree.readJson fileDecoder path

def Experiment.fileName : String := "measurements.json"

/-- Collects the series of completed specs for a file in a directory. -/
structure ExperimentReporter where
  reportDir : String
  measurements : List Series

namespace ExperimentReporter

def new (reportDir : String) : ExperimentReporter := ⟨reportDir, []⟩

def outputPath (reporter : ExperimentReporter) : String :=
  Path.join reporter.reportDir Experiment.fileName

/-- The text of the file for a suite: one experiment. -/
def fileText (reporter : ExperimentReporter) (suite : Suite) : String :=
  (Experiment.fileJson [⟨suite.description, reporter.measurements⟩]).prettyText

/-- Collects between the beginning and the end of a suite, and writes at its end. -/
def notify (reporter : ExperimentReporter) (hook : Hook) (world : World) :
    ExperimentReporter × World :=
  match hook with
  | .suiteWillBegin _ => ({ reporter with measurements := [] }, world)
  | .specDidComplete spec =>
    ({ reporter with measurements := reporter.measurements ++ spec.measurements.values }, world)
  | .suiteDidEnd suite =>
    match world.files.writeText reporter.outputPath (reporter.fileText suite) with
    | .ok files =>
      (reporter, { world with files := files }.tell
        (.wroteExperiment reporter.outputPath reporter.measurements.length))
    | .error _ => (reporter, world.tell (.skippedExperiment reporter.outputPath))
  | _ => (reporter, world)

end ExperimentReporter

end BenchReport
