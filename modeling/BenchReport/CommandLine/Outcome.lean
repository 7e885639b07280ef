import BenchReport.CommandLine.Arguments
import BenchReport.Export
import BenchReport.Measurement.Json
import BenchReport.Query.Catalog
import BenchReport.Report.Generate

/-! What a command line comes to: an exit code, printed text, a log and changed files. -/
namespace BenchReport.CommandLine

def versionText : String := "lokibench 0.4.0\n"

def usageText : String :=
  "Usage: lokibench <COMMAND>\n\n" ++
  "Commands:\n" ++
  "  queries     [--set SET] [--window WINDOW] [--job JOB] [--json]\n" ++
  "  export-csv  INPUT [--report-dir DIR] [--config FILE]\n" ++
  "  report      DIR... [--template FILE]\n\n" ++
  "SET is write, read, index, resources or all.\n"

/-- The measurements of a set. A job narrows the resources to that job, which is their label
then. -/
def select (set : QuerySet) (window : Window) (job : Option String) : List Measurement :=
  match set, job with
  | .write, _ => Query.Catalog.writePath window
  | .read, _ => Query.Catalog.readPath window
  | .index, _ => Query.Catalog.index window
  | .resources, some job => Query.Catalog.resources job window job
  | .resources, none => Query.Catalog.allResources window
  | .all, _ => Query.Catalog.all window

def measurementsJson (measurements : List Measurement) : String :=
  (Json.Value.list (measurements.map Measurement.toJson)).prettyText ++ "\n"

/-- A measurement as text: a heading and the query. -/
def measurementText (m : Measurement) : String :=
  "# " ++ m.name ++ " [" ++ m.unit ++ "] (" ++ m.label ++ ")\n" ++ m.query ++ "\n\n"

def measurementsText (measurements : List Measurement) : String :=
  String.join (measurements.map measurementText)

/-- What a command comes to. -/
structure Outcome where
  exitCode : Nat
  output : String
  log : List Event
  files : FileTree

namespace Outcome

def failureCode : Nat := 1

/-- The exit code of a command line that makes no sense. -/
def misuseCode : Nat := 2

def isLogged (event : Event) : Bool := event.level != .debug

def success (output : String) (log : List Event) (files : FileTree) : Outcome :=
  ⟨0, output, log.filter isLogged, files⟩

/-- A failure, with the event that tells about it. -/
def failure (event : Event) (log : List Event) (files : FileTree) : Outcome :=
  ⟨failureCode, "", (log ++ [event]).filter isLogged, files⟩

def ofExport (world : World) (env : Settings.Environment) (input : String)
    (reportDir : Option String) (configPath : String) : Outcome :=
  match Export.run world env input reportDir configPath with
  | (.ok count, world) =>
    success ("Exported " ++ toString count ++ " measurement(s) from " ++ input ++ "\n") world.log
      world.files
  | (.error _, world) => failure (.exportFailed input) world.log world.files

/-- Makes a report, with the template of a file if one is given. -/
def ofReport (world : World) (dirs : List String) (templatePath : Option String) : Outcome :=
  let template : Except FileError (Option String) :=
    match templatePath with
    | none => .ok none
    | some path => (world.files.readText path).map some
  match template with
  | .error _ => failure .reportFailed world.log world.files
  | .ok template =>
    match Report.run world dirs template with
    | (.ok path, world) => success ("Report written to " ++ path ++ "\n") world.log world.files
    | (.error _, world) => failure .reportFailed world.log world.files

/-- What a command line comes to, given the environment and the seconds on the clock. -/
def ofWords (world : World) (env : Settings.Environment) (words : List String) : Outcome :=
  match Command.ofWords? words with
  | none => ⟨misuseCode, "", [], world.files⟩
  | some .version => success versionText [] world.files
  | some .help => success usageText [] world.files
  | some (.queries set window job asJson) =>
    let measurements := select set window job
    success (if asJson then measurementsJson measurements else measurementsText measurements) []
      world.files
  | some (.exportCsv input reportDir configPath) => ofExport world env input reportDir configPath
  | some (.report dirs template) => ofReport world dirs template

end Outcome

end BenchReport.CommandLine
