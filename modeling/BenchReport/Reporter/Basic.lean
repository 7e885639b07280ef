import BenchReport.Event
import BenchReport.File.Tree
import BenchReport.Series

/-! What a benchmark suite tells its reporters, and the world in which they act. -/
namespace BenchReport

/-- A step in the life of a suite. -/
inductive Hook
  | suiteWillBegin (suite : Suite)
  | beforeSuiteDidRun (setup : Setup)
  | specWillRun (spec : Spec)
  | specDidComplete (spec : Spec)
  | afterSuiteDidRun (setup : Setup)
  | suiteDidEnd (suite : Suite)

/-- What reporters act on: files, the clock in seconds, the log and the notes of observers, both
in order. -/
structure World where
  files : FileTree
  clock : Int
  log : List Event
  notes : List String

namespace World

def ofFiles (files : FileTree) (clock : Int) : World := ⟨files, clock, [], []⟩

def tell (world : World) (event : Event) : World := { world with log := world.log ++ [event] }

end World

end BenchReport
