import BenchReport.Json.Decoding
import BenchReport.Series

/-! Series and spec states in JSON. Here samples are plain numbers. -/
namespace BenchReport

open Json

namespace Series

def toJson (s : Series) : Value :=
  .object [("name", .string s.name), ("units", .string s.units),
    ("annotations", .strings s.labels), ("results", .list (s.results.map .number))]

/-- A series of which not all fields are read yet. -/
structure Draft where
  name : Option String
  units : Option String
  labels : Option (List String)
  results : Option (List Binary64)

namespace Draft

def empty : Draft := ⟨none, none, none, none⟩

/-- The fields of a draft, under the names and with the samples that a format gives them. -/
def fields (name units labels results : String) (samples : Decoder (List Binary64)) :
    List (RecordField Draft) :=
  [.ofOption name Decoder.string Draft.name fun x d => { d with name := some x },
    .ofOption units Decoder.string Draft.units fun x d => { d with units := some x },
    .ofOption labels (Decoder.list Decoder.string) Draft.labels fun x d =>
      { d with labels := some x },
    .ofOption results samples Draft.results fun x d => { d with results := some x }]

/-- The series, or its first missing field. -/
def finish : Draft → Except String Series
  | ⟨some name, some units, some labels, some results⟩ =>
    .ok ⟨name, units, labels, results⟩
  | ⟨none, _, _, _⟩ => .error "name"
  | ⟨_, none, _, _⟩ => .error "units"
  | ⟨_, _, none, _⟩ => .error "annotations"
  | ⟨_, _, _, none⟩ => .error "results"

end Draft

def recordType : RecordType Draft Series where
  title := "MeasurementSeries"
  fields := Draft.fields "name" "units" "annotations" "results" (Decoder.list Decoder.number)
  draft := .empty
  finish := Draft.finish

/-- A series; every field has to be there, and every sample has to be a number. -/
def decoder : Decoder Series := recordType.decode

end Series

namespace SpecState

def toJson (state : SpecState) : Value := .string state.name

def decoder : Decoder SpecState := fun tree =>
  match Decoder.variant (all.map name) tree with
  | .error problem => .error problem
  | .ok i => .ok (all.getD i .pending)

end SpecState

end BenchReport
