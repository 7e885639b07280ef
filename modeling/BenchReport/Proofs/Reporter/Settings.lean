import BenchReport.Proofs.Json.Lookup
import BenchReport.Reporter.Settings

/-!
Where settings come from. A file gives all the settings that it names, with the standards for the
others, or none at all; over each setting lies its variable, if that has a value that makes sense.
-/
namespace BenchReport.Settings

open Json

/-! ## The file -/

/-- The settings in a JSON value: a directory as a string, and the switches as truth values. -/
def Gives (tree : Tree) (given : Draft) : Prop :=
  ∃ field, tree.Fields ["report_dir", "csv", "json"] field ∧
    field "report_dir" = given.reportDir.map .string ∧
    field "csv" = given.csv.map .bool ∧ field "json" = given.json.map .bool

/-- The settings in the file at a path, which is JSON in UTF-8. -/
def FileGives (files : FileTree) (path : String) (given : Draft) : Prop :=
  ∃ text tree, files.readText path = .ok text ∧ Spells text tree ∧ Gives tree given

/-- What is not given has its standard value. -/
def Draft.completed (given : Draft) : Settings where
  reportDir := given.reportDir.getD standard.reportDir
  csv := given.csv.getD standard.csv
  json := given.json.getD standard.json

/-- The settings below all variables: those of the file, or the standard ones if it gives none. -/
def Base (files : FileTree) (path : String) (s : Settings) : Prop :=
  (∃ given, FileGives files path given ∧ s = given.completed) ∨
    (¬∃ given, FileGives files path given) ∧ s = standard

theorem path_ok {tree : Tree} {dir : String} :
    Decoder.path tree = .ok dir ↔ tree = .string dir := by
  cases tree <;> simp [Decoder.path, Decoder.stringAs]

theorem bool_ok {tree : Tree} {b : Bool} : Decoder.bool tree = .ok b ↔ tree = .bool b := by
  cases tree <;> simp [Decoder.bool]

theorem string_injective : Tree.string.Injective := fun _ _ h => Tree.string.inj h

theorem bool_injective : Tree.bool.Injective := fun _ _ h => Tree.bool.inj h

section

variable {tree : Tree} {before next : Draft}

theorem readMember_reportDir :
    RecordType.readMember recordType.fields before (some "report_dir", tree) = .ok next ↔
      before.reportDir = none ∧
        ∃ dir, tree = .string dir ∧ next = { before with reportDir := some dir } := by
  have hfield : (recordType.fields.find? fun field => field.name = "report_dir") =
    some (.ofOption "report_dir" Decoder.path Draft.reportDir
      fun x d => { d with reportDir := some x }) := rfl
  simp only [readMember_ofOption hfield, path_ok]

theorem readMember_csv :
    RecordType.readMember recordType.fields before (some "csv", tree) = .ok next ↔
      before.csv = none ∧ ∃ b, tree = .bool b ∧ next = { before with csv := some b } := by
  have hfield : (recordType.fields.find? fun field => field.name = "csv") =
    some (.ofOption "csv" Decoder.bool Draft.csv fun x d => { d with csv := some x }) := rfl
  simp only [readMember_ofOption hfield, bool_ok]

theorem readMember_json :
    RecordType.readMember recordType.fields before (some "json", tree) = .ok next ↔
      before.json = none ∧ ∃ b, tree = .bool b ∧ next = { before with json := some b } := by
  have hfield : (recordType.fields.find? fun field => field.name = "json") =
    some (.ofOption "json" Decoder.bool Draft.json fun x d => { d with json := some x }) := rfl
  simp only [readMember_ofOption hfield, bool_ok]

end

/-- The members of an object fill the draft field by field. -/
theorem readMembers_iff {members : List (Option String × Tree)}
    (hskip : ∀ member ∈ members, member.2.skipFault? = none) {before after : Draft} :
    RecordType.readMembers recordType.fields (.ofList members) before = .ok after ↔
      (∀ member ∈ members, member.1 ≠ none) ∧
        Fills .string "report_dir" members before.reportDir after.reportDir ∧
        Fills .bool "csv" members before.csv after.csv ∧
        Fills .bool "json" members before.json after.json := by
  -- A member takes part in the field of its own name only, whatever the draft holds so far.
  induction members generalizing before with
  | nil =>
    obtain ⟨dir, csv, json⟩ := before
    obtain ⟨dir', csv', json'⟩ := after
    simp [Members.ofList, RecordType.readMembers, fills_nil string_injective,
      fills_nil bool_injective]
  | cons member members ih =>
    obtain ⟨key, tree⟩ := member
    obtain ⟨htree, hrest⟩ := List.forall_mem_cons.mp hskip
    rw [RecordType.readMembers_cons]
    simp only [ih hrest, List.forall_mem_cons]
    cases key with
    | none => simp [RecordType.readMember_ok]
    | some key =>
      by_cases hdir : key = "report_dir"
      · subst hdir
        rw [fills_cons_self, fills_cons_of_ne (by decide), fills_cons_of_ne (by decide)]
        simp only [readMember_reportDir]
        constructor
        · rintro ⟨_, ⟨hfree, dir, rfl, rfl⟩, hkeys, hdirs, hcsvs, hjsons⟩
          exact ⟨⟨Option.some_ne_none _, hkeys⟩, ⟨hfree, dir, rfl, hdirs⟩, hcsvs, hjsons⟩
        · rintro ⟨⟨-, hkeys⟩, ⟨hfree, dir, rfl, hdirs⟩, hcsvs, hjsons⟩
          exact ⟨_, ⟨hfree, dir, rfl, rfl⟩, hkeys, hdirs, hcsvs, hjsons⟩
      by_cases hcsv : key = "csv"
      · subst hcsv
        rw [fills_cons_self, fills_cons_of_ne (by decide), fills_cons_of_ne (by decide)]
        simp only [readMember_csv]
        constructor
        · rintro ⟨_, ⟨hfree, b, rfl, rfl⟩, hkeys, hdirs, hcsvs, hjsons⟩
          exact ⟨⟨Option.some_ne_none _, hkeys⟩, hdirs, ⟨hfree, b, rfl, hcsvs⟩, hjsons⟩
        · rintro ⟨⟨-, hkeys⟩, hdirs, ⟨hfree, b, rfl, hcsvs⟩, hjsons⟩
          exact ⟨_, ⟨hfree, b, rfl, rfl⟩, hkeys, hdirs, hcsvs, hjsons⟩
      by_cases hjson : key = "json"
      · subst hjson
        rw [fills_cons_self, fills_cons_of_ne (by decide), fills_cons_of_ne (by decide)]
        simp only [readMember_json]
        constructor
        · rintro ⟨_, ⟨hfree, b, rfl, rfl⟩, hkeys, hdirs, hcsvs, hjsons⟩
          exact ⟨⟨Option.some_ne_none _, hkeys⟩, hdirs, hcsvs, hfree, b, rfl, hjsons⟩
        · rintro ⟨⟨-, hkeys⟩, hdirs, hcsvs, hfree, b, rfl, hjsons⟩
          exact ⟨_, ⟨hfree, b, rfl, rfl⟩, hkeys, hdirs, hcsvs, hjsons⟩
      have hunknown : (recordType.fields.find? fun field => field.name = key) = none := by
        simp [recordType, RecordField.ofOption, Ne.symm hdir, Ne.symm hcsv, Ne.symm hjson]
      rw [fills_cons_of_ne (by simpa), fills_cons_of_ne (by simpa), fills_cons_of_ne (by simpa)]
      simp [readMember_unknown hunknown htree]

/-- The items of a list are the settings in their order. -/
theorem readItems_iff {trees : List Tree} {given : Draft} :
    RecordType.readItems recordType.fields (.ofList trees) recordType.draft = .ok given ↔
      trees.length ≤ 3 ∧ trees[0]? = given.reportDir.map .string ∧
        trees[1]? = given.csv.map .bool ∧ trees[2]? = given.json.map .bool := by
  have hlength : trees.tail.tail.tail = [] ↔ trees.length ≤ 3 := by
    rw [← List.length_eq_zero_iff, List.length_tail, List.length_tail, List.length_tail]
    omega
  have hfirst : trees.head? = trees[0]? := List.head?_eq_getElem?
  have hsecond : trees.tail.head? = trees[1]? := by
    rw [List.head?_eq_getElem?, List.getElem?_tail]
  have hthird : trees.tail.tail.head? = trees[2]? := by
    rw [List.head?_eq_getElem?, List.getElem?_tail, List.getElem?_tail]
  simp only [recordType, readItems_ofOption path_ok, readItems_ofOption bool_ok, readItems_past,
    hlength, hfirst, hsecond, hthird]
  obtain ⟨dir, csv, json⟩ := given
  constructor
  · rintro ⟨first, hdir, second, hcsv, third, hjson, hend, hgiven⟩
    cases first <;> cases second <;> cases third <;> cases hgiven <;>
      exact ⟨hend, hdir, hcsv, hjson⟩
  · rintro ⟨hend, hdir, hcsv, hjson⟩
    refine ⟨dir, hdir, csv, hcsv, json, hjson, hend, ?_⟩
    cases dir <;> cases csv <;> cases json <;> rfl

theorem gives_object {members : List (Option String × Tree)}
    (hskip : ∀ member ∈ members, member.2.skipFault? = none) {given : Draft} :
    Gives (.object (.ofList members)) given ↔
      RecordType.readMembers recordType.fields (.ofList members) recordType.draft = .ok given := by
  have hdraft : recordType.draft = ⟨none, none, none⟩ := rfl
  rw [readMembers_iff hskip, hdraft, fills_none, fills_none, fills_none]
  simp only [Gives, fields_object, List.forall_mem_cons]
  constructor
  · rintro ⟨_, ⟨hkeys, ⟨hdirOnce, hcsvOnce, hjsonOnce, -⟩, rfl⟩, hdir, hcsv, hjson⟩
    exact ⟨hkeys, ⟨hdirOnce, hdir⟩, ⟨hcsvOnce, hcsv⟩, hjsonOnce, hjson⟩
  · rintro ⟨hkeys, ⟨hdirOnce, hdir⟩, ⟨hcsvOnce, hcsv⟩, hjsonOnce, hjson⟩
    exact ⟨_, ⟨hkeys, ⟨hdirOnce, hcsvOnce, hjsonOnce, List.forall_mem_nil _⟩, rfl⟩, hdir, hcsv,
      hjson⟩

theorem gives_list {trees : List Tree} {given : Draft} :
    Gives (.list (.ofList trees)) given ↔
      RecordType.readItems recordType.fields (.ofList trees) recordType.draft = .ok given := by
  simp only [Gives, fields_list, readItems_iff]
  constructor
  · rintro ⟨_, ⟨hlength, rfl⟩, hdir, hcsv, hjson⟩
    exact ⟨hlength, hdir, hcsv, hjson⟩
  · rintro ⟨hlength, hdir, hcsv, hjson⟩
    exact ⟨_, ⟨hlength, rfl⟩, hdir, hcsv, hjson⟩

/-- What is read from a value are the settings in it, completed. -/
theorem decoder_ok {tree : Tree} (htree : tree.WellFormed) {s : Settings} :
    decoder tree = .ok s ↔ ∃ given, Gives tree given ∧ given.completed = s := by
  have hfinish (given : Draft) : recordType.finish given = .ok given.completed := rfl
  cases tree with
  | object members =>
    obtain ⟨pairs, rfl, hskip⟩ := htree.exists_members
    simp only [decoder, RecordType.decode_object, gives_object hskip, hfinish, Except.ok.injEq]
  | list items =>
    obtain ⟨trees, rfl⟩ := htree.exists_items
    simp only [decoder, RecordType.decode_list, gives_list, hfinish, Except.ok.injEq]
  | _ =>
    constructor
    · intro h
      cases h
    · rintro ⟨given, ⟨field, hfield, -⟩, -⟩
      cases hfield

theorem load_ok {files : FileTree} {path : String} {s : Settings} :
    load files path = .ok s ↔ ∃ given, FileGives files path given ∧ given.completed = s := by
  rw [load, FileTree.readJson_ok]
  constructor
  · rintro ⟨text, htext, hdecode⟩
    obtain ⟨tree, hspells, htree⟩ := decodeText_ok_iff.mp hdecode
    obtain ⟨given, hgives, rfl⟩ := (decoder_ok hspells.wellFormed).mp htree
    exact ⟨given, ⟨text, tree, htext, hspells, hgives⟩, rfl⟩
  · rintro ⟨given, ⟨text, tree, htext, hspells, hgives⟩, rfl⟩
    have htree := (decoder_ok hspells.wellFormed).mpr ⟨given, hgives, rfl⟩
    exact ⟨text, htext, decodeText_ok_iff.mpr ⟨tree, hspells, htree⟩⟩

theorem loadOrStandard_ok {files : FileTree} {path : String} {s : Settings}
    (h : load files path = .ok s) : (loadOrStandard files path).1 = s := by
  rw [loadOrStandard, h]

theorem loadOrStandard_error {files : FileTree} {path : String} {e : ReadError}
    (h : load files path = .error e) : (loadOrStandard files path).1 = standard := by
  rw [loadOrStandard, h]
  cases e with
  | file e => cases e <;> rfl
  | content problem => rfl

/-- There is just one choice of settings below all variables. -/
theorem base_iff {files : FileTree} {path : String} {s : Settings} :
    Base files path s ↔ s = (loadOrStandard files path).1 := by
  rw [Base]
  cases hload : load files path with
  | ok loaded =>
    rw [loadOrStandard_ok hload]
    obtain ⟨given, hgives, rfl⟩ := load_ok.mp hload
    constructor
    · rintro (⟨other, hother, rfl⟩ | ⟨hnone, -⟩)
      · exact Except.ok.inj ((load_ok.mpr ⟨other, hother, rfl⟩).symm.trans hload)
      · exact absurd ⟨given, hgives⟩ hnone
    · rintro rfl
      exact .inl ⟨given, hgives, rfl⟩
  | error e =>
    rw [loadOrStandard_error hload]
    have hnone : ¬∃ given, FileGives files path given := by
      rintro ⟨given, hgives⟩
      cases hload.symm.trans (load_ok.mpr ⟨given, hgives, rfl⟩)
    constructor
    · rintro (⟨given, hgives, -⟩ | ⟨-, rfl⟩)
      · exact absurd ⟨given, hgives⟩ hnone
      · rfl
    · rintro rfl
      exact .inr ⟨hnone, rfl⟩

/-! ## The variables -/

/-- A switch is turned by a variable that says exactly `true` or `false`, and by nothing else. -/
inductive SwitchOver (below : Bool) : Option String → Bool → Prop
  | on : SwitchOver below (some "true") true
  | off : SwitchOver below (some "false") false
  | otherwise (value : Option String) : value ≠ some "true" → value ≠ some "false" →
    SwitchOver below value below

/-- A directory given outright goes before one in a variable, which must not be empty. -/
inductive DirectoryOver (below : String) : Option String → Option String → String → Prop
  | outright (dir : String) (value : Option String) : DirectoryOver below (some dir) value dir
  | ofVariable (dir : String) : dir ≠ "" → DirectoryOver below none (some dir) dir
  | unset : DirectoryOver below none none below
  | empty : DirectoryOver below none (some "") below

theorem switchOver_iff {below : Bool} {value : Option String} {b : Bool} :
    SwitchOver below value b ↔ (flag? value).getD below = b := by
  constructor
  · rintro (_ | _ | ⟨_, htrue, hfalse⟩)
    · rfl
    · rfl
    · rw [flag?, if_neg htrue, if_neg hfalse, Option.getD_none]
  · rintro rfl
    by_cases htrue : value = some "true"
    · subst htrue
      exact .on
    by_cases hfalse : value = some "false"
    · subst hfalse
      exact .off
    rw [flag?, if_neg htrue, if_neg hfalse, Option.getD_none]
    exact .otherwise value htrue hfalse

theorem nonempty?_some {dir : String} (h : dir ≠ "") : nonempty? (some dir) = some dir := by
  rw [nonempty?, if_neg]
  simpa using h

theorem directoryOver_iff {below : String} {given value : Option String} {dir : String} :
    DirectoryOver below given value dir ↔
      given.getD ((nonempty? value).getD below) = dir := by
  constructor
  · rintro (_ | ⟨_, hdir⟩ | _ | _)
    · rfl
    · rw [nonempty?_some hdir, Option.getD_none, Option.getD_some]
    · rfl
    · rfl
  · rintro rfl
    match given, value with
    | some given, value => exact .outright given value
    | none, none => exact .unset
    | none, some dir =>
      by_cases hdir : dir = ""
      · subst hdir
        exact .empty
      · rw [nonempty?_some hdir]
        exact .ofVariable dir hdir

theorem eq_mk {s : Settings} {reportDir : String} {csv json : Bool}
    (hdir : s.reportDir = reportDir) (hcsv : s.csv = csv) (hjson : s.json = json) :
    s = ⟨reportDir, csv, json⟩ := by
  subst hdir hcsv hjson
  rfl

theorem override_override (s : Settings) (env : Environment) :
    (s.override env).override env = s.override env := by
  have hself {α : Type} (value : Option α) (below : α) :
      value.getD (value.getD below) = value.getD below := by
    cases value <;> rfl
  simp only [override, hself]

end BenchReport.Settings
