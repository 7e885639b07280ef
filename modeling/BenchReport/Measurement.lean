/-! Labelled queries: what is asked of the metrics store, in which unit, and for which component. -/
namespace BenchReport

/-- A query with its human-readable name, the unit of its result and the label that groups it. -/
structure Measurement where
  name : String
  query : String
  unit : String
  label : String
  deriving DecidableEq

namespace Measurement

/-- One line: name, unit, label and query. -/
def text (m : Measurement) : String :=
  m.name ++ " [" ++ m.unit ++ "] (" ++ m.label ++ "): " ++ m.query

instance : ToString Measurement := ⟨text⟩

end Measurement

end BenchReport
