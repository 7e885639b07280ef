import BenchReport.CommandLine.Outcome
import BenchReport.Proofs.File.Tree
import BenchReport.Proofs.Json.RoundTrip

/-! The measurements that are printed in JSON are read back as they were, whatever their texts. -/
namespace BenchReport

open Json

namespace Measurement

theorem decode_toJson (m : Measurement) : decoder m.toJson.tree = .ok m := by
  have hstring (text : String) : Decoder.string (.string text) = .ok text := rfl
  simp [toJson, decoder, Value.tree, Value.memberTrees, RecordType.decode, RecordType.readMembers,
    recordType, Draft.fields, Draft.finish, RecordField.ofOption, hstring]

theorem decode_listed (ms : List Measurement) :
    Decoder.list decoder (Value.list (ms.map toJson)).tree = .ok ms :=
  Value.decode_list_self decode_toJson ms

end Measurement

namespace CommandLine

/-- The newline after the last bracket is blank space. -/
theorem measurementsJson_spells (ms : List Measurement) :
    Spells (measurementsJson ms) (Value.list (ms.map Measurement.toJson)).tree := by
  refine ⟨[], _, ['\n'], gap_nil, Value.prettyAt_spelled _ 0, ?_, ?_⟩
  · intro c hc
    rw [List.mem_singleton.mp hc]
    decide
  · simp [measurementsJson, Value.prettyText]

/-- The printed bytes are a text, and reading it gives the measurements. -/
theorem measurementsJson_read (ms : List Measurement) :
    ∃ text, String.fromUTF8? (measurementsJson ms).toByteArray = some text ∧
      decodeText (Decoder.list Measurement.decoder) text = .ok ms :=
  ⟨measurementsJson ms, FileTree.fromUTF8?_toByteArray _,
    ((measurementsJson_spells ms).decodeText_eq _).trans (Measurement.decode_listed ms)⟩

/-- What is printed in JSON for a set, a window and a job, as every command line prints it that asks
for them, is read back as the measurements that were selected, in their order. -/
theorem queries_lossless (set : QuerySet) (window : Window) (job : Option String) :
    (∃ text, String.fromUTF8? (measurementsJson (select set window job)).toByteArray = some text ∧
      decodeText (Decoder.list Measurement.decoder) text = .ok (select set window job)) ∧
    ∀ world env words, Command.ofWords? words = some (.queries set window job true) →
      (Outcome.ofWords world env words).exitCode = 0 ∧
        (Outcome.ofWords world env words).output =
          measurementsJson (select set window job) := by
  refine ⟨measurementsJson_read _, fun world env words hwords => ?_⟩
  rw [Outcome.ofWords, hwords]
  exact ⟨rfl, rfl⟩

/-- A job with a quote, a backslash, a line end, a control character and a line separator. -/
def oddJob : String := "a\"\\\n\x01\u2028"

theorem queries_lossless_oddJob :
    let words := ["queries", "--set", "resources", "--job", oddJob, "--json"]
    let outcome := Outcome.ofWords (.ofFiles .start 0) (fun _ => none) words
    ∃ text, String.fromUTF8? outcome.output.toByteArray = some text ∧
      decodeText (Decoder.list Measurement.decoder) text =
        .ok (Query.Catalog.resources oddJob standardWindow oddJob) := by
  intro words outcome
  have hwords : Command.ofWords? words =
      some (.queries .resources standardWindow (some oddJob) true) := by rfl
  obtain ⟨hread, hprinted⟩ := queries_lossless .resources standardWindow (some oddJob)
  rw [(hprinted _ _ _ hwords).2]
  exact hread

end CommandLine

end BenchReport
