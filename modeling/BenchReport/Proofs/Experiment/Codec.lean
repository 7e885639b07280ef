import BenchReport.Proofs.File.Tree
import BenchReport.Proofs.Json.RoundTrip
import BenchReport.Reporter.Experiment

/-! Experiment files are read back exactly as they were written, in either form. -/
namespace BenchReport.Experiment

open Json

/-- The sample that a number is read as, before strings are looked into. -/
def spelledSample : Binary64 → Sample
  | .nan => .text "NaN"
  | .infinite negative => .text (if negative then "-Inf" else "+Inf")
  | x => .number x

theorem decode_sample (x : Binary64) :
    Sample.decoder (sampleJson x).tree = .ok (spelledSample x) := by
  cases x with
  | nan => rfl
  | infinite negative => cases negative <;> rfl
  | finite negative rank => rfl

theorem value_spelledSample (x : Binary64) : (spelledSample x).value = .ok x := by
  cases x with
  | nan => rfl
  | infinite negative => cases negative <;> rfl
  | finite negative rank => rfl

theorem sampleValues_spelled (xs : List Binary64) :
    sampleValues (xs.map spelledSample) = .ok xs := by
  induction xs with
  | nil => rfl
  | cons x xs ih => simp only [List.map_cons, sampleValues, value_spelledSample, ih]

theorem decode_samples (xs : List Binary64) :
    samplesDecoder (.list (Value.itemTrees (xs.map sampleJson))) = .ok xs := by
  have hlist := Value.decode_list decode_sample xs
  rw [Value.tree] at hlist
  simp only [samplesDecoder, hlist, sampleValues_spelled]

theorem decode_series (s : Series) : seriesType.decode (seriesJson s).tree = .ok s := by
  have hstring (text : String) : Decoder.string (.string text) = .ok text := rfl
  simp [seriesJson, Value.tree, Value.memberTrees, RecordType.decode, RecordType.readMembers,
    seriesType, Series.Draft.fields, RecordField.ofOption, Series.Draft.empty, hstring,
    Value.decode_strings, decode_samples]

theorem decode_experiment (e : Experiment) : recordType.decode e.toJson.tree = .ok e := by
  have hstring (text : String) : Decoder.string (.string text) = .ok text := rfl
  have hseries : Decoder.list seriesType.decode
      (.list (Value.itemTrees (e.measurements.map seriesJson))) = .ok e.measurements :=
    Value.decode_list_self decode_series e.measurements
  simp [toJson, Value.tree, Value.memberTrees, RecordType.decode, RecordType.readMembers,
    recordType, RecordField.ofOption, hstring, hseries]

theorem decode_file (es : List Experiment) : fileDecoder (fileJson es).tree = .ok es :=
  Value.decode_list_self decode_experiment es

/-- The text of an experiment file, with one element a line or without blanks, is read as the
experiments it was written from: the same names, labels and numbers, in the same order. -/
theorem parse_fileJson (es : List Experiment) :
    parse (fileJson es).prettyText = .ok es ∧ parse (fileJson es).compactText = .ok es := by
  constructor
  · rw [parse, Value.decodeText_prettyText, decode_file]
  · rw [parse, Value.decodeText_compactText, decode_file]

/-- A file that holds the written form of experiments is read as them. -/
theorem load_file {tree : FileTree} {path : String} {place : Place} {es : List Experiment}
    (hplace : tree.resolve path = .ok place)
    (hnode : tree.node? place = some (.file (fileJson es).prettyText.toByteArray)) :
    load tree path = .ok es :=
  FileTree.readJson_ok.mpr ⟨_, FileTree.readText_file hplace hnode,
    (Value.decodeText_prettyText _ _).trans (decode_file es)⟩

theorem prettyText_ne_empty (es : List Experiment) : (fileJson es).prettyText ≠ "" := by
  intro h
  have hchars := congrArg String.toList h
  rw [fileJson, Value.prettyText, String.toList_ofList] at hchars
  cases es with
  | nil => simp [Value.prettyAt] at hchars
  | cons e es => simp [Value.prettyAt] at hchars

/-- Once written, an experiment file is read back. -/
theorem load_writeText {tree after : FileTree} {path : String} {es : List Experiment}
    (h : tree.writeText path (fileJson es).prettyText = .ok after) : load after path = .ok es := by
  obtain ⟨place, hplace, hnode, rfl⟩ := FileTree.writeText_ok h (prettyText_ne_empty es)
  have hself := FileTree.node?_put_self tree (FileTree.place_ne_nil hnode)
    (.file (fileJson es).prettyText.toByteArray)
  exact load_file ((FileTree.keeps_put hnode _).resolve hplace) hself

theorem fileName_plain : Path.Plain fileName.toList :=
  ⟨by decide, by decide, by decide, by decide, by decide⟩

theorem resolve_fileName {tree : FileTree} {dir : String} {place : Place}
    (hdir : tree.joinPlace dir = .ok place) (hnode : tree.node? place = some .directory) :
    tree.resolve (Path.join dir fileName) = .ok (place ++ [fileName.toList]) := by
  have hshort : ¬FileTree.longestName < FileTree.byteLength fileName.toList := by decide
  rw [FileTree.resolve_join_directory hdir hnode fileName_plain, if_neg hshort]

end BenchReport.Experiment
