import BenchReport.CommandLine.Outcome

/-! What ties a command to real files: the paths that it reads, and places as absolute paths. -/
namespace BenchReport.CommandLine

def Command.reads : Command → List String
  | version | help | queries .. => []
  | exportCsv input _ configPath => [configPath, input]
  | report dirs template =>
    template.toList ++
      dirs.flatMap fun dir =>
        [Path.join dir Experiment.fileName, Path.join dir Report.benchmarkFile]

/-- The paths on the way to a path, each one step longer. -/
def pathsTo (path : String) : List String :=
  let ends := (List.range (path.toList.length + 1)).filter fun i =>
    0 < i && (path.toList[i]? == none || path.toList[i]? == some '/')
  ends.map fun i => String.ofList (path.toList.take i)

def pathOf (place : Place) : String := String.ofList (place.flatMap fun name => '/' :: name)

def placeOf (path : String) : Place :=
  (Path.components path).filterMap fun
    | .name text => some text
    | _ => none

def logLine (event : Event) : String :=
  let fields := ("message", event.message) :: event.fields
  (Json.Value.object
    [("level", .string event.level.text),
      ("fields", .object (fields.map fun (name, text) => (name, .string text)))]).compactText

end BenchReport.CommandLine
