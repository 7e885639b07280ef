import BenchReport.Json.Decoding
import BenchReport.Measurement

/-! Labelled queries in JSON. -/
namespace BenchReport.Measurement

open Json

def toJson (m : Measurement) : Value :=
  .object [("name", .string m.name), ("query", .string m.query), ("unit", .string m.unit),
    ("annotation", .string m.label)]

/-- A measurement of which not all fields are read yet. -/
structure Draft where
  name : Option String
  query : Option String
  unit : Option String
  label : Option String

namespace Draft

def fields : List (RecordField Draft) :=
  [.ofOption "name" Decoder.string name fun x d => { d with name := some x },
    .ofOption "query" Decoder.string query fun x d => { d with query := some x },
    .ofOption "unit" Decoder.string unit fun x d => { d with unit := some x },
    .ofOption "annotation" Decoder.string label fun x d => { d with label := some x }]

/-- The measurement, or its first missing field. -/
def finish : Draft → Except String Measurement
  | ⟨some name, some query, some unit, some label⟩ => .ok ⟨name, query, unit, label⟩
  | ⟨none, _, _, _⟩ => .error "name"
  | ⟨_, none, _, _⟩ => .error "query"
  | ⟨_, _, none, _⟩ => .error "unit"
  | ⟨_, _, _, none⟩ => .error "annotation"

end Draft

def recordType : RecordType Draft Measurement where
  title := "Measurement"
  fields := Draft.fields
  draft := ⟨none, none, none, none⟩
  finish := Draft.finish

/-- A measurement; every field has to be there. -/
def decoder : Decoder Measurement := recordType.decode

end BenchReport.Measurement
