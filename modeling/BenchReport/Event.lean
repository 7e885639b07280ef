/-! What the program tells about its work: events with a level, a message and named fields. -/
namespace BenchReport

/-- How much an event matters. -/
inductive Level
  | debug | info | warn | error
  deriving DecidableEq

def Level.text : Level → String
  | debug => "DEBUG"
  | info => "INFO"
  | warn => "WARN"
  | error => "ERROR"

/-- Something worth telling. -/
inductive Event
  | wroteSeries (measurement path : String) (rows : Nat)
  | cannotCreate (measurement path : String)
  | skippedRow (measurement : String)
  | cannotFlush (measurement path : String)
  | exportedSpec (spec : String) (files skipped : Nat)
  | wroteExperiment (path : String) (measurements : Nat)
  | skippedExperiment (path : String)
  | ignoredSettings (path : String)
  | noDescription (path : String)
  | loadedRun (dir description : String) (measurements : Nat)
  | wroteReport (path : String) (runs measurements : Nat)
  | exportFinished (input reportDir : String) (measurements : Nat)
  | queriesFailed
  | exportFailed (input : String)
  | reportFailed
  deriving DecidableEq

namespace Event

def level : Event → Level
  | wroteSeries .. | loadedRun .. => .debug
  | exportedSpec .. | wroteExperiment .. | wroteReport .. | exportFinished .. => .info
  | cannotCreate .. | skippedRow .. | cannotFlush .. | skippedExperiment .. | ignoredSettings ..
  | noDescription .. => .warn
  | queriesFailed | exportFailed .. | reportFailed => .error

def message : Event → String
  | wroteSeries .. => "Wrote measurement CSV"
  | cannotCreate .. => "Skipping measurement, cannot create CSV file"
  | skippedRow .. => "Skipping CSV row"
  | cannotFlush .. => "Skipping measurement, cannot flush CSV file"
  | exportedSpec .. => "Exported spec measurements to CSV"
  | wroteExperiment .. => "Wrote experiment file"
  | skippedExperiment .. => "Skipping experiment file"
  | ignoredSettings .. => "Ignoring invalid reporter configuration"
  | noDescription .. => "No benchmark description file"
  | loadedRun .. => "Loaded benchmark run"
  | wroteReport .. => "Generated benchmark report"
  | exportFinished .. => "CSV export finished"
  | queriesFailed => "Queries command failed"
  | exportFailed .. => "CSV export failed"
  | reportFailed => "Report generation failed"

def fields : Event → List (String × String)
  | wroteSeries measurement path rows =>
    [("measurement", measurement), ("path", path), ("rows", toString rows)]
  | cannotCreate measurement path | cannotFlush measurement path =>
    [("measurement", measurement), ("path", path)]
  | skippedRow measurement => [("measurement", measurement)]
  | exportedSpec spec files skipped =>
    [("spec", spec), ("files", toString files), ("skipped", toString skipped)]
  | wroteExperiment path measurements =>
    [("path", path), ("measurements", toString measurements)]
  | skippedExperiment path | ignoredSettings path | noDescription path => [("path", path)]
  | loadedRun dir description measurements =>
    [("dir", dir), ("description", description), ("measurements", toString measurements)]
  | wroteReport path runs measurements =>
    [("path", path), ("runs", toString runs), ("measurements", toString measurements)]
  | exportFinished input reportDir measurements =>
    [("input", input), ("report_dir", reportDir), ("measurements", toString measurements)]
  | exportFailed input => [("input", input)]
  | queriesFailed | reportFailed => []

end Event

end BenchReport
