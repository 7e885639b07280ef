import BenchReport.Number.Numeral
import BenchReport.Series.Json

/-!
Experiment files: a list of experiments, each with the series of one suite. JSON has neither NaN
nor infinities, so those samples are written as the strings `NaN`, `+Inf` and `-Inf`; reading also
takes `null` for NaN and any text of a number.
-/
namespace BenchReport

open Json

/-- The series recorded during one run of a suite. -/
structure Experiment where
  name : String
  measurements : List Series
  deriving DecidableEq

namespace Experiment

def sampleJson (x : Binary64) : Value :=
  match x with
  | .nan => .string "NaN"
  | .infinite negative => .string (if negative then "-Inf" else "+Inf")
  | x => .number x

def seriesJson (s : Series) : Value :=
  .object [("Name", .string s.name), ("Units", .string s.units),
    ("Annotations", .strings s.labels), ("Values", .list (s.results.map sampleJson))]

def toJson (e : Experiment) : Value :=
  .object [("Name", .string e.name), ("Measurements", .list (e.measurements.map seriesJson))]

def fileJson (experiments : List Experiment) : Value := .list (experiments.map toJson)

/-- A sample as it is spelled. -/
inductive Sample
  | missing
  | number (x : Binary64)
  | text (s : String)

/-- Lists and objects may nest so deep in the place of a sample: 127 levels in a file, less the
five that hold it. -/
def sampleRoom : Nat := 122

/-- A sample: `null`, a number or a string. Anything else is refused, once all of it is read. -/
def Sample.decoder : Decoder Sample := fun tree =>
  match tree with
  | .null => .ok .missing
  | .integer n => .ok (.number (Binary64.ofInt n))
  | .real x => .ok (.number x)
  | .string s => .ok (.text s)
  | tree =>
    match tree.readFault? sampleRoom with
    | some fault => .error (.fault fault)
    | none => .error (.refused "data did not match any variant of untagged enum Sample")

def Sample.value : Sample → Except Problem Binary64
  | .missing => .ok .nan
  | .number x => .ok x
  | .text s =>
    match Binary64.read? s.toList with
    | some x => .ok x
    | none => .error (.refused ("invalid sample value: " ++ s))

/-- The numbers of samples, or the first that is none. -/
def sampleValues : List Sample → Except Problem (List Binary64)
  | [] => .ok []
  | sample :: rest =>
    match sample.value with
    | .error problem => .error problem
    | .ok x =>
      match sampleValues rest with
      | .error problem => .error problem
      | .ok xs => .ok (x :: xs)

/-- Samples; strings are looked into once the list is complete. -/
def samplesDecoder : Decoder (List Binary64) := fun tree =>
  match Decoder.list Sample.decoder tree with
  | .error problem => .error problem
  | .ok samples => sampleValues samples

/-- A series as experiment files give it: only the name has to be there. -/
def seriesType : RecordType Series.Draft Series where
  title := "MeasurementRecord"
  fields := Series.Draft.fields "Name" "Units" "Annotations" "Values" samplesDecoder
  draft := .empty
  finish draft :=
    match draft.name with
    | none => .error "Name"
    | some name =>
      .ok ⟨name, draft.units.getD "", draft.labels.getD [], draft.results.getD []⟩

/-- An experiment of which not all fields are read yet. -/
structure Draft where
  name : Option String
  measurements : Option (List Series)

/-- An experiment: only the name has to be there. -/
def recordType : RecordType Draft Experiment where
  title := "ExperimentRecord"
  fields :=
    [.ofOption "Name" Decoder.string Draft.name fun x d => { d with name := some x },
      .ofOption "Measurements" (Decoder.list seriesType.decode) Draft.measurements fun x d =>
        { d with measurements := some x }]
  draft := ⟨none, none⟩
  finish draft :=
    match draft.name with
    | none => .error "Name"
    | some name => .ok ⟨name, draft.measurements.getD []⟩

def fileDecoder : Decoder (List Experiment) := Decoder.list recordType.decode

def parse (text : String) : Except Problem (List Experiment) := decodeText fileDecoder text

end Experiment

end BenchReport
