import BenchReport.Proofs.Json.RoundTrip
import BenchReport.Series.Json

/-!
Series in JSON. Strings and finite samples are read back as they were written. A sample that is no
finite number is written as `null`, and the reader of a series stops there.
-/
namespace BenchReport.Series

open Json

/-- Samples are all read back, or the first that is no finite number is refused. -/
theorem decode_results (xs : List Binary64) :
    Decoder.list Decoder.number (.list (Value.itemTrees (xs.map .number))) =
      if ∀ x ∈ xs, x.isFinite = true then .ok xs else .error (.wrongKind .null "f64") := by
  rw [Decoder.list]
  induction xs with
  | nil => simp [Value.itemTrees, Items.decode]
  | cons x xs ih =>
    rw [List.map_cons, Value.itemTrees, Value.tree, Items.decode, ih]
    have hall : (∀ y ∈ x :: xs, y.isFinite = true) ↔
        x.isFinite = true ∧ ∀ y ∈ xs, y.isFinite = true := List.forall_mem_cons
    by_cases hx : x.isFinite = true
    · by_cases hrest : ∀ y ∈ xs, y.isFinite = true
      · have hboth := hall.mpr ⟨hx, hrest⟩
        rw [if_pos hx, if_pos hrest, if_pos hboth]
        rfl
      · have hnot := fun h => hrest (hall.mp h).2
        rw [if_pos hx, if_neg hrest, if_neg hnot]
        rfl
    · have hnot := fun h => hx (hall.mp h).1
      rw [if_neg hx, if_neg hnot]
      rfl

theorem decode_toJson (s : Series) :
    decoder s.toJson.tree =
      if ∀ x ∈ s.results, x.isFinite = true then .ok s
      else .error (.wrongKind .null "f64") := by
  have hstring (text : String) : Decoder.string (.string text) = .ok text := rfl
  have hresults := decode_results s.results
  by_cases hfinite : ∀ x ∈ s.results, x.isFinite = true
  · rw [if_pos hfinite] at hresults ⊢
    simp [toJson, decoder, Value.tree, Value.memberTrees, RecordType.decode,
      RecordType.readMembers, recordType, Draft.fields, Draft.empty, Draft.finish,
      RecordField.ofOption, hstring, Value.decode_strings, hresults]
  · rw [if_neg hfinite] at hresults ⊢
    simp [toJson, decoder, Value.tree, Value.memberTrees, RecordType.decode,
      RecordType.readMembers, recordType, Draft.fields, Draft.empty, RecordField.ofOption, hstring,
      Value.decode_strings, hresults]

/-- In either written form a series is read back, the same in every character and every bit, exactly
if all its samples are finite. Otherwise it is refused at the first that is not. -/
theorem decodeText_toJson (s : Series) :
    let readBack : Except Problem Series :=
      if ∀ x ∈ s.results, x.isFinite = true then .ok s else .error (.wrongKind .null "f64")
    decodeText decoder s.toJson.compactText = readBack ∧
      decodeText decoder s.toJson.prettyText = readBack := by
  intro readBack
  constructor
  · rw [Value.decodeText_compactText, decode_toJson]
  · rw [Value.decodeText_prettyText, decode_toJson]

/-- The series of a spec that recorded one sample. -/
def oneSample (x : Binary64) : Series :=
  (ofMeasurement ⟨"p99", "histogram_quantile", "ms", "querier"⟩).push x "querier"

/-- A recorded NaN is not read back; its text is that of an infinity. -/
theorem oneSample_nan_lost :
    ((Spec.new ["idle"]).record ⟨"p99", "histogram_quantile", "ms", "querier"⟩
        .nan).measurements.get? "p99" = some (oneSample .nan) ∧
      (oneSample .nan).toJson.compactText = (oneSample (.infinite true)).toJson.compactText ∧
      ¬∀ s : Series, decodeText decoder s.toJson.compactText = .ok s := by
  refine ⟨rfl, rfl, fun h => ?_⟩
  have hnan := h (oneSample .nan)
  rw [Value.decodeText_compactText, decode_toJson] at hnan
  simp [oneSample, push, ofMeasurement, Binary64.isFinite] at hnan

end BenchReport.Series
