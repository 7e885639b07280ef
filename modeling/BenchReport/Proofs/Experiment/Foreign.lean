import BenchReport.Proofs.Experiment.Codec
import BenchReport.Proofs.Json.Record
import Mathlib.Logic.Relation

/-!
Experiment files of other programs. Members that are not known here, another order of the members
and other blanks do not change which experiments a text is read as.
-/
namespace BenchReport.Experiment

open Json

/-! ## Edits -/

/-- A measurement with other members beside its fields, or with its members in another order. -/
def SeriesEdit : Tree → Tree → Prop :=
  RecordEdit ["Name", "Units", "Annotations", "Values"] fun _ _ _ => False

/-- An experiment with other members beside its fields, with its members in another order, or with
one of its measurements edited. -/
def ExperimentEdit : Tree → Tree → Prop :=
  RecordEdit ["Name", "Measurements"] fun key value edited =>
    key = "Measurements" ∧ ListEdit SeriesEdit value edited

/-- A file with one of its experiments edited. -/
def FileEdit : Tree → Tree → Prop := ListEdit ExperimentEdit

theorem SeriesEdit.wellFormed {tree edited : Tree} (h : SeriesEdit tree edited)
    (htree : tree.WellFormed) : edited.WellFormed :=
  RecordEdit.wellFormed (fun hedit => hedit.elim) h htree

theorem ExperimentEdit.wellFormed {tree edited : Tree} (h : ExperimentEdit tree edited)
    (htree : tree.WellFormed) : edited.WellFormed :=
  RecordEdit.wellFormed (fun hedit => ListEdit.wellFormed SeriesEdit.wellFormed hedit.2) h htree

theorem FileEdit.wellFormed {tree edited : Tree} (h : FileEdit tree edited)
    (htree : tree.WellFormed) : edited.WellFormed :=
  ListEdit.wellFormed ExperimentEdit.wellFormed h htree

/-! ## Reading what was edited -/

open RecordField in
/-- The fields of a series do not meet, whatever their names are. -/
theorem seriesFields_independent (name units labels results : String)
    (samples : Decoder (List Binary64)) :
    Independent (Series.Draft.fields name units labels results samples) where
  marks := by
    simp only [Series.Draft.fields, List.forall_mem_cons, List.not_mem_nil, false_implies,
      implies_true, and_true]
    refine ⟨?_, ?_, ?_, ?_⟩
    all_goals
      apply ofOption_marks
      intro _ _
      rfl
  apart := by
    simp only [Series.Draft.fields, List.pairwise_cons, List.forall_mem_cons, List.not_mem_nil,
      false_implies, implies_true, and_true, List.Pairwise.nil]
    refine ⟨⟨?_, ?_, ?_⟩, ⟨?_, ?_⟩, ?_⟩
    all_goals exact ofOption_apart (fun _ _ => rfl) (fun _ _ => rfl) fun _ _ _ => rfl

open RecordField in
theorem recordType_independent : Independent recordType.fields where
  marks := by
    simp only [recordType, List.forall_mem_cons, List.not_mem_nil, false_implies, implies_true,
      and_true]
    refine ⟨?_, ?_⟩
    all_goals
      apply ofOption_marks
      intro _ _
      rfl
  apart := by
    simp only [recordType, List.pairwise_cons, List.forall_mem_cons, List.not_mem_nil,
      false_implies, implies_true, and_true, List.Pairwise.nil]
    exact ofOption_apart (fun _ _ => rfl) (fun _ _ => rfl) fun _ _ _ => rfl

theorem SeriesEdit.keeps {tree edited : Tree} (h : SeriesEdit tree edited) :
    Decoder.Keeps seriesType.decode tree edited :=
  RecordType.decode_keeps (seriesFields_independent _ _ _ _ _) (fun hedit => hedit.elim) h

theorem ExperimentEdit.keeps {tree edited : Tree} (h : ExperimentEdit tree edited) :
    Decoder.Keeps recordType.decode tree edited := by
  refine RecordType.decode_keeps recordType_independent ?_ h
  rintro _ value edited ⟨rfl, hlist⟩ field hfield hname draft
  simp only [recordType, List.mem_cons, List.not_mem_nil, or_false] at hfield
  rcases hfield with rfl | rfl
  · exact absurd hname (by decide)
  · exact RecordField.ofOption_keeps (Decoder.list_keeps SeriesEdit.keeps hlist) draft

theorem FileEdit.keeps {tree edited : Tree} (h : FileEdit tree edited) :
    fileDecoder.Keeps tree edited :=
  Decoder.list_keeps ExperimentEdit.keeps h

/-- An accepted text spells a tree. After any number of edits there are texts that spell what became
of the tree, and each of them, with whatever blanks and escapes, is read as the same experiments. -/
theorem parse_edited {text : String} {es : List Experiment} (h : parse text = .ok es) :
    (∃ tree, Spells text tree) ∧
      ∀ {tree edited}, Spells text tree → Relation.ReflTransGen FileEdit tree edited →
        (∃ foreign, Spells foreign edited) ∧
          ∀ {foreign}, Spells foreign edited → parse foreign = .ok es := by
  refine ⟨spells_of_decodeText h, fun {tree edited} htree hedits => ?_⟩
  -- Each edit keeps what is read, and that there is a text at all.
  have hkept : edited.WellFormed ∧ fileDecoder edited = .ok es := by
    induction hedits with
    | refl => exact ⟨htree.wellFormed, (htree.decodeText_eq fileDecoder).symm.trans h⟩
    | tail _ hedit ih => exact ⟨hedit.wellFormed ih.1, hedit.keeps es ih.2⟩
  exact ⟨hkept.1.exists_spells, fun hforeign => (hforeign.decodeText_eq fileDecoder).trans hkept.2⟩

/-- A file of another program: the kind of a measurement comes before its name, and the name of an
experiment comes last, after the host that it ran on. -/
def hostedFile : Value :=
  .list [.object [
    ("Measurements", .list [.object [("Type", .string "Value"), ("Name", .string "cpu"),
      ("Units", .string "cores"), ("Annotations", .strings ["v2"]),
      ("Values", .list [.string "NaN"])]]),
    ("Host", .object [("Cpus", .list [.list [], .null])]),
    ("Name", .string "ingest")]]

theorem parse_edited_hosted :
    let plain : Experiment := ⟨"ingest", [⟨"cpu", "cores", ["v2"], [.nan]⟩]⟩
    parse (fileJson [plain]).compactText = .ok [plain] ∧
      parse hostedFile.prettyText = .ok [plain] := by
  intro plain
  have hplain : parse (fileJson [plain]).compactText = .ok [plain] :=
    (Value.decodeText_compactText fileDecoder _).trans (decode_file [plain])
  have hknown (v : Value) : v.tree.WellFormed := ⟨_, v.compact_spelled⟩
  let name : Option String × Tree := (some "Name", .string "ingest")
  let host : Option String × Tree :=
    (some "Host", (Value.object [("Cpus", .list [.list [], .null])]).tree)
  let fields : List (Option String × Tree) :=
    [(some "Name", .string "cpu"), (some "Units", .string "cores"),
      (some "Annotations", (Value.strings ["v2"]).tree),
      (some "Values", (Value.list [.string "NaN"]).tree)]
  let series : Tree := .object (.ofList fields)
  let kinded : Tree := .object (.ofList ((some "Type", .string "Value") :: fields))
  let measurements (tree : Tree) : Option String × Tree :=
    (some "Measurements", .list (.ofList [tree]))
  have hswap : ExperimentEdit plain.toJson.tree (.object (.ofList [measurements series, name])) :=
    RecordEdit.reorder (List.Perm.swap (measurements series) name [])
  have hhost : ExperimentEdit (.object (.ofList [measurements series, name]))
      (.object (.ofList [measurements series, host, name])) :=
    RecordEdit.insert [measurements series] [name] (by decide) (hknown _)
  have hkinded : SeriesEdit series kinded :=
    RecordEdit.insert [] fields (by decide) (hknown (.string "Value"))
  have hkind : ExperimentEdit (.object (.ofList [measurements series, host, name]))
      (.object (.ofList [measurements kinded, host, name])) :=
    RecordEdit.member [] [host, name] (by decide) ⟨rfl, .item [] [] hkinded⟩
  have hedits : Relation.ReflTransGen FileEdit (fileJson [plain]).tree hostedFile.tree :=
    ((Relation.ReflTransGen.single (.item [] [] hswap)).tail (.item [] [] hhost)).tail
      (.item [] [] hkind)
  have hspells : Spells (fileJson [plain]).compactText (fileJson [plain]).tree :=
    Tree.Spelled.spells (fileJson [plain]).compact_spelled
  have hforeign : Spells hostedFile.prettyText hostedFile.tree :=
    Tree.Spelled.spells (hostedFile.prettyAt_spelled 0)
  exact ⟨hplain, ((parse_edited hplain).2 hspells hedits).2 hforeign⟩

end BenchReport.Experiment
