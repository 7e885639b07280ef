import BenchReport.CommandLine.Footprint
import Std.Time.DateTime.Timestamp

/-!
The program. It looks at the files that a command reads and at the places where it would write,
lets the command act on what it saw, and writes what has changed.
-/
namespace BenchReport.CommandLine

/-- What stands at a path, if anything can be read there. -/
def observeNode (path : String) : IO (Option FileNode) := do
  try
    discard (IO.FS.realPath (path ++ "/."))
    return some .directory
  catch _ =>
    try
      return some (.file (← IO.FS.readBinFile path))
    catch _ => return none

/-- A tree with what stands at a path and on the way to it. -/
def observePath (tree : FileTree) (path : String) : IO FileTree := do
  let mut tree := tree
  for step in pathsTo path do
    match tree.resolve step with
    | .error _ => return tree
    | .ok place =>
      if (tree.node? place).isNone then
        match ← observeNode step with
        | some node => tree := tree.put place node
        | none => return tree
  return tree

def observePaths (tree : FileTree) (paths : List String) : IO FileTree := do
  let mut tree := tree
  for path in paths do
    tree ← observePath tree path
  return tree

/-- Makes the directories and writes the files that are not as they were. -/
def writeChanges (before after : FileTree) : IO Unit := do
  for (place, node) in (FileTree.changes before after).reverse do
    match node with
    | .directory => IO.FS.createDirAll (pathOf place)
    | .file content => IO.FS.writeBinFile (pathOf place) content
    | .full => pure ()

/-- The variables of the environment that settings give way to. -/
def readEnvironment : IO Settings.Environment := do
  let names := [Settings.dirVariable, Settings.csvVariable, Settings.jsonVariable]
  let values ← names.mapM fun name => do return (name, ← IO.getEnv name)
  return fun name => (values.lookup name).join

end BenchReport.CommandLine

open BenchReport BenchReport.CommandLine in
def main (words : List String) : IO UInt32 := do
  let env ← readEnvironment
  let now := (← Std.Time.Timestamp.now).toSecondsSinceUnixEpoch.val
  let run (files : FileTree) : Outcome := Outcome.ofWords (.ofFiles files now) env words
  let command := Command.ofWords? words
  if command.isNone then
    IO.eprint usageText
  let here := FileTree.ofWorkingDirectory (placeOf (toString (← IO.FS.realPath ".")))
  let seen ← observePaths here ((command.map Command.reads).getD [])
  let targets := (FileTree.changes seen (run seen).files).map fun (place, _) => pathOf place
  let seen ← observePaths seen targets
  let outcome := run seen
  writeChanges seen outcome.files
  for event in outcome.log do
    IO.eprintln (logLine event)
  IO.print outcome.output
  return outcome.exitCode.toUInt32
