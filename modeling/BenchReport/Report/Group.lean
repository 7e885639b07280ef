import BenchReport.Report.Stats
import BenchReport.Series

/-! The series of several benchmark runs, brought together by measurement. -/
namespace BenchReport.Report

/-- A benchmark run: its directory, what it was about and what it measured. -/
structure Run where
  dir : String
  description : String
  measurements : List Series

/-- The samples of one measurement in one run. -/
structure RunSeries where
  description : String
  values : List Binary64
  stats : Option Stats
  deriving DecidableEq

/-- The runs that recorded a measurement. -/
structure Group where
  name : String
  units : String
  runs : List RunSeries
  deriving DecidableEq

namespace Group

def entry (run : Run) (series : Series) : RunSeries :=
  ⟨run.description, series.results, Stats.ofValues series.results⟩

/-- Adds an entry to the group of a name; the units of its first entry label a group. -/
def add (name units : String) (entry : RunSeries) : List Group → List Group
  | [] => [⟨name, units, [entry]⟩]
  | group :: rest =>
    if group.name = name then { group with runs := group.runs ++ [entry] } :: rest
    else group :: add name units entry rest

def addRun (groups : List Group) (run : Run) : List Group :=
  run.measurements.foldl (fun groups s => add s.name s.units (entry run s) groups) groups

/-- The groups of all runs, in the order in which their names first appear. -/
def ofRuns (runs : List Run) : List Group := runs.foldl addRun []

def longest (group : Group) : Nat := (group.runs.map fun run => run.values.length).foldl max 0

end Group

end BenchReport.Report
