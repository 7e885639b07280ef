import BenchReport.Number.FixedPoint
import BenchReport.Page.Datum
import BenchReport.Report.Anchor
import BenchReport.Report.Group

/-! What a report shows of its groups: every number is a text already. -/
namespace BenchReport.Report

def twoDecimals (x : Binary64) : String := String.ofList (x.fixedPoint 2)

/-- What stands in the place of a statistic of no samples. -/
def noValue : String := "-"

/-- What is shown of one run in a group. -/
structure RunView where
  description : String
  samples : Nat
  min : String
  mean : String
  max : String
  values : List String
  deriving DecidableEq

namespace RunView

/-- A statistic with two decimals, or a dash. -/
def statistic (stats : Option Stats) (select : Stats → Binary64) : String :=
  match stats with
  | some stats => twoDecimals (select stats)
  | none => noValue

def ofSeries (series : RunSeries) : RunView where
  description := series.description
  samples := series.values.length
  min := statistic series.stats Stats.min
  mean := statistic series.stats Stats.mean
  max := statistic series.stats Stats.max
  values := series.values.map twoDecimals

def datum (view : RunView) : Page.Datum :=
  .object [("description", .text view.description), ("max", .text view.max),
    ("mean", .text view.mean), ("min", .text view.min), ("samples", .integer view.samples),
    ("values", .list (view.values.map .text))]

end RunView

/-- What is shown of a group. -/
structure GroupView where
  name : String
  anchor : String
  units : String
  minutes : List Nat
  runs : List RunView
  deriving DecidableEq

namespace GroupView

/-- The view of a group; its minutes cover the longest run. -/
def ofGroup (group : Group) : GroupView where
  name := group.name
  anchor := Report.anchor group.name
  units := group.units
  minutes := sampleMinutes group.longest
  runs := group.runs.map RunView.ofSeries

def datum (view : GroupView) : Page.Datum :=
  .object [("anchor", .text view.anchor),
    ("minutes", .list (view.minutes.map fun minute : Nat => .integer minute)),
    ("name", .text view.name), ("runs", .list (view.runs.map RunView.datum)),
    ("units", .text view.units)]

end GroupView

def pageData (runCount : Nat) (groups : List Group) : Page.Datum :=
  .object [("measurements", .list (groups.map fun group => (GroupView.ofGroup group).datum)),
    ("run_count", .integer runCount)]

end BenchReport.Report
