import BenchReport.Measurement
import BenchReport.NameMap
import BenchReport.Number.Binary64

/-! Recorded samples: the series of one measurement, the spec that records them, and the suite. -/
namespace BenchReport

/-- The samples of one measurement, with the label of each. -/
structure Series where
  name : String
  units : String
  labels : List String
  results : List Binary64
  deriving DecidableEq

namespace Series

def ofMeasurement (m : Measurement) : Series := ⟨m.name, m.unit, [], []⟩

def push (s : Series) (value : Binary64) (label : String) : Series :=
  { s with labels := s.labels ++ [label], results := s.results ++ [value] }

def length (s : Series) : Nat := s.results.length

end Series

/-- How a spec ended. -/
inductive SpecState
  | pending | passed | failed | skipped
  deriving DecidableEq

namespace SpecState

def all : List SpecState := [pending, passed, failed, skipped]

def name : SpecState → String
  | pending => "Pending"
  | passed => "Passed"
  | failed => "Failed"
  | skipped => "Skipped"

end SpecState

/-- A spec: what it is called and what was recorded while it ran. -/
structure Spec where
  texts : List String
  state : SpecState
  measurements : NameMap Series

namespace Spec

def new (texts : List String) : Spec := ⟨texts, .pending, .empty⟩

def text (spec : Spec) : String := " ".intercalate spec.texts

/-- Adds a sample to the series of a measurement's name; the first measurement recorded under a
name gives the unit. -/
def record (spec : Spec) (m : Measurement) (value : Binary64) : Spec :=
  { spec with
    measurements := spec.measurements.alter m.name fun
      | none => (Series.ofMeasurement m).push value m.label
      | some series => series.push value m.label }

/-- Puts a series in the place of any other of its name. -/
def insertSeries (spec : Spec) (series : Series) : Spec :=
  { spec with measurements := spec.measurements.insert series.name series }

end Spec

/-- A suite of specs. -/
structure Suite where
  description : String
  failedSpecs : Nat

namespace Suite

def new (description : String) : Suite := ⟨description, 0⟩

def succeeded (suite : Suite) : Bool := suite.failedSpecs == 0

end Suite

/-- Whether the work around the specs of a suite succeeded. -/
structure Setup where
  passed : Bool

end BenchReport
