import BenchReport.Proofs.Json.Record

/-!
Records as look-ups. What a field holds is what stands under its name in an object, where no field
stands twice, or in its place in the list of the fields.
-/
namespace BenchReport.Json

/-! ## Trees without faults -/

theorem Items.Spelled.exists_ofList (items : Items) {first : Bool} {text : List Char}
    (h : items.Spelled first text) : ∃ trees, items = .ofList trees := by
  cases items with
  | close => exact ⟨[], rfl⟩
  | stop b => exact absurd h id
  | item value rest =>
    obtain ⟨_, _, more, -, -, hmore, -⟩ := h
    obtain ⟨trees, rfl⟩ := Items.Spelled.exists_ofList rest hmore
    exact ⟨value :: trees, rfl⟩
termination_by structural items

theorem Members.Spelled.exists_ofList (members : Members) {first : Bool} {text : List Char}
    (h : members.Spelled first text) : ∃ pairs, members = .ofList pairs := by
  cases members with
  | close => exact ⟨[], rfl⟩
  | stop b => exact absurd h id
  | keyless fault value => exact absurd h id
  | member key value rest =>
    obtain ⟨_, _, _, _, _, more, -, -, -, -, -, hmore, -⟩ := h
    obtain ⟨pairs, rfl⟩ := Members.Spelled.exists_ofList rest hmore
    exact ⟨(key, value) :: pairs, rfl⟩
termination_by structural members

theorem Tree.WellFormed.exists_items {items : Items} (h : (Tree.list items).WellFormed) :
    ∃ trees, items = .ofList trees := by
  obtain ⟨_, body, -, hbody⟩ := h
  exact Items.Spelled.exists_ofList items hbody

theorem Tree.WellFormed.exists_members {members : Members}
    (h : (Tree.object members).WellFormed) :
    ∃ pairs, members = .ofList pairs ∧ ∀ pair ∈ pairs, pair.2.skipFault? = none := by
  obtain ⟨_, body, -, hbody⟩ := id h
  obtain ⟨pairs, rfl⟩ := Members.Spelled.exists_ofList members hbody
  refine ⟨pairs, rfl, fun pair hpair => ?_⟩
  obtain ⟨word, hword⟩ := (wellFormed_object pairs).mp h pair hpair
  exact hword.skipFault?

/-! ## Fields -/

/-- A record with fields of some names, with what stands for each of them. An object may have other
members, but every key is Unicode text and no field stands twice. A list has no more than the
fields, in their order. -/
inductive Tree.Fields (names : List String) : Tree → (String → Option Tree) → Prop
  | object (members : List (Option String × Tree)) :
    (∀ member ∈ members, member.1 ≠ none) →
    (∀ name ∈ names, (members.map (·.1)).count (some name) ≤ 1) →
    Fields names (.object (.ofList members)) fun name => members.lookup (some name)
  | list (trees : List Tree) : trees.length ≤ names.length →
    Fields names (.list (.ofList trees)) fun name => trees[names.idxOf name]?

theorem Items.ofList_injective : ofList.Injective
  | [], [], _ => rfl
  | _ :: _, _ :: _, h => by
    obtain ⟨rfl, hrest⟩ := Items.item.inj h
    rw [ofList_injective hrest]

theorem Members.ofList_injective : ofList.Injective
  | [], [], _ => rfl
  | _ :: _, _ :: _, h => by
    obtain ⟨hkey, htree, hrest⟩ := Members.member.inj h
    rw [Prod.ext hkey htree, ofList_injective hrest]

theorem fields_object {names : List String} {members : List (Option String × Tree)}
    {field : String → Option Tree} :
    (Tree.object (.ofList members)).Fields names field ↔
      (∀ member ∈ members, member.1 ≠ none) ∧
        (∀ name ∈ names, (members.map (·.1)).count (some name) ≤ 1) ∧
        field = fun name => members.lookup (some name) := by
  constructor
  · generalize htree : Tree.object (.ofList members) = tree
    rintro (⟨_, hkeys, hcount⟩ | _)
    · obtain rfl := Members.ofList_injective (Tree.object.inj htree)
      exact ⟨hkeys, hcount, rfl⟩
    · cases htree
  · rintro ⟨hkeys, hcount, rfl⟩
    exact .object members hkeys hcount

theorem fields_list {names : List String} {trees : List Tree} {field : String → Option Tree} :
    (Tree.list (.ofList trees)).Fields names field ↔
      trees.length ≤ names.length ∧ field = fun name => trees[names.idxOf name]? := by
  constructor
  · generalize htree : Tree.list (.ofList trees) = tree
    rintro (_ | ⟨_, hlength⟩)
    · cases htree
    · obtain rfl := Items.ofList_injective (Tree.list.inj htree)
      exact ⟨hlength, rfl⟩
  · rintro ⟨hlength, rfl⟩
    exact .list trees hlength

/-- Members fill a field: it is as it was, or it was empty and holds the value of its one member. -/
def Fills {β : Type} (wrap : β → Tree) (name : String) (members : List (Option String × Tree))
    (before after : Option β) : Prop :=
  (members.map (·.1)).count (some name) + before.toList.length ≤ 1 ∧
    (before.map wrap).or (members.lookup (some name)) = after.map wrap

section

variable {β : Type} {wrap : β → Tree} {name : String} {members : List (Option String × Tree)}
  {before after : Option β}

theorem fills_none :
    Fills wrap name members none after ↔
      (members.map (·.1)).count (some name) ≤ 1 ∧
        members.lookup (some name) = after.map wrap := by
  simp [Fills]

theorem fills_nil (hwrap : wrap.Injective) : Fills wrap name [] before after ↔ before = after := by
  have hlength : before.toList.length ≤ 1 := by cases before <;> simp
  simp [Fills, hlength, (Option.map_injective hwrap).eq_iff]

theorem fills_cons_of_ne {key : Option String} {tree : Tree} (h : key ≠ some name) :
    Fills wrap name ((key, tree) :: members) before after ↔
      Fills wrap name members before after := by
  have hkey : (some name == key) = false := beq_false_of_ne h.symm
  simp [Fills, List.lookup_cons, h, hkey]

/-- A field takes one member, and none once it is filled. -/
theorem fills_cons_self {tree : Tree} :
    Fills wrap name ((some name, tree) :: members) before after ↔
      before = none ∧ ∃ x, tree = wrap x ∧ Fills wrap name members (some x) after := by
  constructor
  · rintro ⟨hcount, hvalue⟩
    rw [List.map_cons, List.count_cons_self] at hcount
    cases before with
    | some x =>
      simp at hcount
    | none =>
      rw [List.lookup_cons_self] at hvalue
      cases after with
      | none => cases hvalue
      | some x =>
        refine ⟨rfl, x, Option.some.inj hvalue, ?_, rfl⟩
        simpa using hcount
  · rintro ⟨rfl, x, rfl, hcount, hvalue⟩
    refine ⟨?_, ?_⟩
    · rw [List.map_cons, List.count_cons_self]
      simpa using hcount
    · rw [List.lookup_cons_self]
      exact hvalue

end

section

variable {δ β : Type} {fields : List (RecordField δ)} {name : String} {decoder : Decoder β}
  {get : δ → Option β} {set : β → δ → δ} {draft next : δ}

/-- A member fills the optional field of its name, once. -/
theorem readMember_ofOption
    (h : (fields.find? fun field => field.name = name) = some (.ofOption name decoder get set))
    {tree : Tree} :
    RecordType.readMember fields draft (some name, tree) = .ok next ↔
      get draft = none ∧ ∃ x, decoder tree = .ok x ∧ next = set x draft := by
  have hset : (RecordField.ofOption name decoder get set).isSet draft = false ↔
      get draft = none := Option.isSome_eq_false_iff.trans Option.isNone_iff_eq_none
  simp only [RecordType.readMember_ok, Option.some.injEq, exists_eq_left', h, hset,
    RecordField.ofOption_read, reduceCtorEq, false_and, false_or]

/-- A member of another name changes nothing. -/
theorem readMember_unknown (h : (fields.find? fun field => field.name = name) = none) {tree : Tree}
    (hskip : tree.skipFault? = none) :
    RecordType.readMember fields draft (some name, tree) = .ok next ↔ draft = next := by
  simp only [RecordType.readMember_ok, Option.some.injEq, exists_eq_left', h, hskip, reduceCtorEq,
    true_and, false_and, exists_false, or_false]

theorem readItems_nil :
    RecordType.readItems fields (.ofList []) draft = .ok next ↔ draft = next := by
  cases fields <;> simp [Items.ofList, RecordType.readItems]

/-- The first item, if there is one, is the value of the first field. -/
theorem readItems_ofOption {wrap : β → Tree}
    (hdecoder : ∀ {tree x}, decoder tree = .ok x ↔ tree = wrap x) {trees : List Tree} :
    RecordType.readItems (.ofOption name decoder get set :: fields) (.ofList trees) draft =
        .ok next ↔
      ∃ first : Option β, trees.head? = first.map wrap ∧
        RecordType.readItems fields (.ofList trees.tail) (first.elim draft (set · draft)) =
          .ok next := by
  cases trees with
  | nil =>
    simp only [List.tail_nil, readItems_nil, List.head?_nil]
    constructor
    · rintro rfl
      exact ⟨none, rfl, rfl⟩
    · rintro ⟨first, hfirst, rfl⟩
      cases first with
      | none => rfl
      | some x => cases hfirst
  | cons tree rest =>
    simp only [RecordType.readItems_cons, RecordField.ofOption_read, hdecoder, List.tail_cons,
      List.head?_cons]
    constructor
    · rintro ⟨_, ⟨x, rfl, rfl⟩, hrest⟩
      exact ⟨some x, rfl, hrest⟩
    · rintro ⟨first, hfirst, hrest⟩
      cases first with
      | none => cases hfirst
      | some x => exact ⟨_, ⟨x, Option.some.inj hfirst, rfl⟩, hrest⟩

theorem readItems_past {trees : List Tree} :
    RecordType.readItems [] (.ofList trees) draft = .ok next ↔ trees = [] ∧ draft = next := by
  cases trees <;> simp [Items.ofList, RecordType.readItems]

end

end BenchReport.Json
