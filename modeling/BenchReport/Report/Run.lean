import BenchReport.Report.Group
import BenchReport.Reporter.Experiment
import BenchReport.Yaml.Value

/-! Loading benchmark runs: a directory each, with an experiment file and a description. -/
namespace BenchReport.Report

/-- Why there is no report. -/
inductive ReportError
  | noRuns
  | noExperiment (path : String)
  | measurements (e : ReadError)
  | description
  | template
  | rendering
  | file (e : FileError)

def ReportError.message? : ReportError → Option String
  | noRuns => some "No run directories given"
  | noExperiment path => some ("No experiments in " ++ path)
  | _ => none

def benchmarkFile : String := "benchmark.yaml"

def unknownBenchmark : String := "Unknown Benchmark"

/-- The description in the content of a benchmark file. -/
def describedAs (content : Yaml.Value) : String :=
  let description := do
    let scenarios ← content.get? "scenarios"
    let ingestion ← scenarios.get? "ingestionPath"
    let description ← ingestion.get? "description"
    description.text?
  description.getD unknownBenchmark

/-- A result, and what was told on the way to it. -/
abbrev Told (α : Type) := α × List Event

/-- Reads the description of a run; a file that is not there is told about. -/
def readDescription (files : FileTree) (path : String) : Told (Except ReportError String) :=
  match files.readText path with
  | .error .notFound => (.ok unknownBenchmark, [.noDescription path])
  | .error e => (.error (.file e), [])
  | .ok text =>
    match Yaml.parse? text with
    | none => (.error .description, [])
    | some content => (.ok (describedAs content), [])

namespace Run

/-- Loads the run in a directory; only the first experiment of its file counts. -/
def load (files : FileTree) (dir : String) : Told (Except ReportError Run) :=
  let path := Path.join dir Experiment.fileName
  match Experiment.load files path with
  | .error e => (.error (.measurements e), [])
  | .ok [] => (.error (.noExperiment path), [])
  | .ok (experiment :: _) =>
    match readDescription files (Path.join dir benchmarkFile) with
    | (.error e, told) => (.error e, told)
    | (.ok description, told) =>
      (.ok ⟨dir, description, experiment.measurements⟩,
        told ++ [.loadedRun dir description experiment.measurements.length])

/-- Loads the runs in directories, up to the first that fails. -/
def loadAll (files : FileTree) : List String → Told (Except ReportError (List Run))
  | [] => (.ok [], [])
  | dir :: rest =>
    match load files dir with
    | (.error e, told) => (.error e, told)
    | (.ok run, told) =>
      match loadAll files rest with
      | (.error e, more) => (.error e, told ++ more)
      | (.ok runs, more) => (.ok (run :: runs), told ++ more)

end Run

end BenchReport.Report
