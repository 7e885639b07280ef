import BenchReport.Proofs.Json.Soundness
import Mathlib.Data.List.Pairwise

/-!
Records in foreign texts. A record that is read from an object is read just so when its members
change places, and when members of other names come in between.
-/
namespace BenchReport.Json

/-- The items of a list that does not break off. -/
def Items.ofList : List Tree → Items
  | [] => .close
  | value :: rest => .item value (ofList rest)

/-- The members of an object that does not break off. -/
def Members.ofList : List (Option String × Tree) → Members
  | [] => .close
  | (key, value) :: rest => .member key value (ofList rest)

/-! ## Well-formed values -/

/-- A value that some text spells. -/
def Tree.WellFormed (tree : Tree) : Prop := ∃ word, tree.Spelled word

theorem exists_lead (first : Bool) : ∃ lead, Lead first lead := by
  cases first with
  | true => exact ⟨[], gap_nil⟩
  | false => exact ⟨[','], [], [], gap_nil, gap_nil, rfl⟩

/-- Every key can be spelled; half of a pair of units spells the one without Unicode text. -/
theorem exists_stringSpelled (key : Option String) : ∃ name, StringSpelled key name := by
  cases key with
  | some key => exact ⟨_, _, rfl, readString_escaped key⟩
  | none => exact ⟨_, ['\\', 'u', 'd', '8', '0', '0', '"'], rfl, rfl⟩

theorem Items.exists_spelled_ofList (first : Bool) (trees : List Tree) :
    (∃ body, (ofList trees).Spelled first body) ↔ ∀ tree ∈ trees, tree.WellFormed := by
  induction trees generalizing first with
  | nil =>
    constructor
    · intro _ tree htree
      cases htree
    · intro _
      exact ⟨[']'], [], gap_nil, rfl⟩
  | cons tree rest ih =>
    rw [List.forall_mem_cons, ← ih false]
    constructor
    · rintro ⟨_, lead, word, more, -, hword, hmore, -⟩
      exact ⟨⟨word, hword⟩, more, hmore⟩
    · rintro ⟨⟨word, hword⟩, more, hmore⟩
      obtain ⟨lead, hlead⟩ := exists_lead first
      exact ⟨_, lead, word, more, hlead, hword, hmore, rfl⟩

theorem Members.exists_spelled_ofList (first : Bool) (members : List (Option String × Tree)) :
    (∃ body, (ofList members).Spelled first body) ↔ ∀ member ∈ members, member.2.WellFormed := by
  induction members generalizing first with
  | nil =>
    constructor
    · intro _ member hmember
      cases hmember
    · intro _
      exact ⟨['\x7d'], [], gap_nil, rfl⟩
  | cons member rest ih =>
    obtain ⟨key, tree⟩ := member
    rw [List.forall_mem_cons, ← ih false]
    constructor
    · rintro ⟨_, lead, name, before, after, word, more, -, -, -, -, hword, hmore, -⟩
      exact ⟨⟨word, hword⟩, more, hmore⟩
    · rintro ⟨⟨word, hword⟩, more, hmore⟩
      obtain ⟨lead, hlead⟩ := exists_lead first
      obtain ⟨name, hname⟩ := exists_stringSpelled key
      exact ⟨_, lead, name, [], [], word, more, hlead, hname, gap_nil, gap_nil, hword, hmore, rfl⟩

theorem wellFormed_list (trees : List Tree) :
    (Tree.list (.ofList trees)).WellFormed ↔ ∀ tree ∈ trees, tree.WellFormed := by
  rw [← Items.exists_spelled_ofList true]
  constructor
  · rintro ⟨_, body, -, hbody⟩
    exact ⟨body, hbody⟩
  · rintro ⟨body, hbody⟩
    exact ⟨_, body, rfl, hbody⟩

theorem wellFormed_object (members : List (Option String × Tree)) :
    (Tree.object (.ofList members)).WellFormed ↔ ∀ member ∈ members, member.2.WellFormed := by
  rw [← Members.exists_spelled_ofList true]
  constructor
  · rintro ⟨_, body, -, hbody⟩
    exact ⟨body, hbody⟩
  · rintro ⟨body, hbody⟩
    exact ⟨_, body, rfl, hbody⟩

theorem Spells.wellFormed {text : String} {tree : Tree} (h : Spells text tree) :
    tree.WellFormed := by
  obtain ⟨before, word, after, -, hword, -⟩ := h
  exact ⟨word, hword⟩

theorem Tree.WellFormed.exists_spells {tree : Tree} (h : tree.WellFormed) :
    ∃ text, Spells text tree := by
  obtain ⟨word, hword⟩ := h
  exact ⟨_, hword.spells⟩

mutual

/-- Nothing stops a reader that passes over what a text spells. -/
theorem Tree.Spelled.skipFault? (tree : Tree) {text : List Char} (h : tree.Spelled text) :
    tree.skipFault? = none := by
  cases tree with
  | list items =>
    obtain ⟨body, -, hbody⟩ := h
    exact Items.Spelled.skipFault? items hbody
  | object members =>
    obtain ⟨body, -, hbody⟩ := h
    exact Members.Spelled.skipFault? members hbody
  | broken b => exact absurd h id
  | _ => rfl
termination_by structural tree

theorem Items.Spelled.skipFault? (items : Items) {first : Bool} {text : List Char}
    (h : items.Spelled first text) : items.skipFault? = none := by
  cases items with
  | close => rfl
  | stop b => exact absurd h id
  | item value rest =>
    obtain ⟨_, word, more, -, hword, hmore, -⟩ := h
    rw [Items.skipFault?, Tree.Spelled.skipFault? value hword]
    exact Items.Spelled.skipFault? rest hmore
termination_by structural items

theorem Members.Spelled.skipFault? (members : Members) {first : Bool} {text : List Char}
    (h : members.Spelled first text) : members.skipFault? = none := by
  cases members with
  | close => rfl
  | stop b => exact absurd h id
  | keyless fault value => exact absurd h id
  | member key value rest =>
    obtain ⟨_, _, _, _, word, more, -, -, -, -, hword, hmore, -⟩ := h
    rw [Members.skipFault?, Tree.Spelled.skipFault? value hword]
    exact Members.Spelled.skipFault? rest hmore
termination_by structural members

end

/-! ## What is read from lists and records -/

theorem Items.decode_cons {α : Type} {decoder : Decoder α} {value : Tree} {rest : List Tree}
    {xs : List α} :
    (ofList (value :: rest)).decode decoder = .ok xs ↔
      ∃ x more, decoder value = .ok x ∧ (ofList rest).decode decoder = .ok more ∧
        x :: more = xs := by
  simp only [ofList, Items.decode]
  cases decoder value with
  | error problem => simp
  | ok x => cases (ofList rest).decode decoder <;> simp

theorem RecordField.ofOption_read {δ β : Type} {name : String} {decoder : Decoder β}
    {get : δ → Option β} {set : β → δ → δ} {tree : Tree} {draft next : δ} :
    (ofOption name decoder get set).read tree draft = .ok next ↔
      ∃ x, decoder tree = .ok x ∧ next = set x draft := by
  simp only [ofOption]
  cases decoder tree with
  | error problem => simp
  | ok x => simp [eq_comm]

namespace RecordType

variable {δ α : Type} {fields : List (RecordField δ)} {draft next : δ}

/-- One member of a record. -/
def readMember (fields : List (RecordField δ)) (draft : δ) :
    Option String × Tree → Except Problem δ
  | (none, _) => .error (.fault .malformed)
  | (some key, value) =>
    match fields.find? fun field => field.name = key with
    | none =>
      match value.skipFault? with
      | some fault => .error (.fault fault)
      | none => .ok draft
    | some field => if field.isSet draft then .error (.duplicateField key) else field.read value draft

/-- What a member can do to the draft: an unknown one is passed over, and a field that is not there
yet is read. -/
theorem readMember_ok {member : Option String × Tree} :
    readMember fields draft member = .ok next ↔
      ∃ key, member.1 = some key ∧
        ((fields.find? fun field => field.name = key) = none ∧ member.2.skipFault? = none ∧
            draft = next ∨
          ∃ field, (fields.find? fun field => field.name = key) = some field ∧
            field.isSet draft = false ∧ field.read member.2 draft = .ok next) := by
  obtain ⟨key, value⟩ := member
  cases key with
  | none => simp [readMember]
  | some key =>
    simp only [readMember, Option.some.injEq, exists_eq_left']
    cases fields.find? fun field => field.name = key with
    | none => cases value.skipFault? <;> simp
    | some field => cases hset : field.isSet draft <;> simp [hset]

theorem readMembers_cons {member : Option String × Tree} {members : List (Option String × Tree)}
    {last : δ} :
    readMembers fields (.ofList (member :: members)) draft = .ok last ↔
      ∃ next, readMember fields draft member = .ok next ∧
        readMembers fields (.ofList members) next = .ok last := by
  obtain ⟨key, value⟩ := member
  cases key with
  | none => simp [Members.ofList, readMembers, readMember]
  | some key =>
    simp only [Members.ofList, readMembers, readMember]
    cases fields.find? fun field => field.name = key with
    | none => cases value.skipFault? <;> simp
    | some field =>
      cases hset : field.isSet draft with
      | true => simp [hset]
      | false => cases hread : field.read value draft <;> simp [hset, hread]

theorem readMembers_append {before after : List (Option String × Tree)} {last : δ} :
    readMembers fields (.ofList (before ++ after)) draft = .ok last ↔
      ∃ next, readMembers fields (.ofList before) draft = .ok next ∧
        readMembers fields (.ofList after) next = .ok last := by
  induction before generalizing draft with
  | nil => simp [Members.ofList, readMembers]
  | cons member before ih =>
    simp only [List.cons_append, readMembers_cons, ih]
    constructor
    · rintro ⟨next, hmember, between, hbefore, hafter⟩
      exact ⟨between, ⟨next, hmember, hbefore⟩, hafter⟩
    · rintro ⟨between, ⟨next, hmember, hbefore⟩, hafter⟩
      exact ⟨next, hmember, between, hbefore, hafter⟩

theorem readItems_cons {field : RecordField δ} {value : Tree} {rest : List Tree} {last : δ} :
    readItems (field :: fields) (.ofList (value :: rest)) draft = .ok last ↔
      ∃ next, field.read value draft = .ok next ∧
        readItems fields (.ofList rest) next = .ok last := by
  simp only [Items.ofList, readItems]
  cases field.read value draft <;> simp

theorem decode_object {type : RecordType δ α} {members : Members} {x : α} :
    type.decode (.object members) = .ok x ↔
      ∃ draft, readMembers type.fields members type.draft = .ok draft ∧
        type.finish draft = .ok x := by
  simp only [decode]
  cases readMembers type.fields members type.draft with
  | error problem => simp
  | ok draft => cases hfinish : type.finish draft <;> simp [hfinish]

theorem decode_list {type : RecordType δ α} {items : Items} {x : α} :
    type.decode (.list items) = .ok x ↔
      ∃ draft, readItems type.fields items type.draft = .ok draft ∧ type.finish draft = .ok x := by
  simp only [decode]
  cases readItems type.fields items type.draft with
  | error problem => simp
  | ok draft => cases hfinish : type.finish draft <;> simp [hfinish]

end RecordType

/-! ## Changes that a decoder does not see -/

/-- What a decoder reads from a tree, it also reads from the edited one. -/
def Decoder.Keeps {α : Type} (decoder : Decoder α) (tree edited : Tree) : Prop :=
  ∀ x, decoder tree = .ok x → decoder edited = .ok x

/-- One item of a list is edited. -/
inductive ListEdit (edit : Tree → Tree → Prop) : Tree → Tree → Prop
  | item (before after : List Tree) {value edited : Tree} : edit value edited →
    ListEdit edit (.list (.ofList (before ++ value :: after)))
      (.list (.ofList (before ++ edited :: after)))

/-- A record with the given field names is edited: a member of another name comes in, members
change places, or the value of one field is edited, in an object or in the list of the fields. -/
inductive RecordEdit (names : List String) (edit : String → Tree → Tree → Prop) : Tree → Tree → Prop
  | insert (before after : List (Option String × Tree)) {key : String} {value : Tree} :
    key ∉ names → value.WellFormed →
    RecordEdit names edit (.object (.ofList (before ++ after)))
      (.object (.ofList (before ++ (some key, value) :: after)))
  | reorder {members edited : List (Option String × Tree)} : members.Perm edited →
    RecordEdit names edit (.object (.ofList members)) (.object (.ofList edited))
  | member (before after : List (Option String × Tree)) {key : String} {value edited : Tree} :
    key ∈ names → edit key value edited →
    RecordEdit names edit (.object (.ofList (before ++ (some key, value) :: after)))
      (.object (.ofList (before ++ (some key, edited) :: after)))
  | item (before after : List Tree) {key : String} {value edited : Tree} :
    names[before.length]? = some key → edit key value edited →
    RecordEdit names edit (.list (.ofList (before ++ value :: after)))
      (.list (.ofList (before ++ edited :: after)))

theorem ListEdit.wellFormed {edit : Tree → Tree → Prop} {tree edited : Tree}
    (hedit : ∀ {value edited}, edit value edited → value.WellFormed → edited.WellFormed)
    (h : ListEdit edit tree edited) (htree : tree.WellFormed) : edited.WellFormed := by
  cases h with
  | item before after hitem =>
    simp only [wellFormed_list, List.forall_mem_append, List.forall_mem_cons] at htree ⊢
    exact ⟨htree.1, hedit hitem htree.2.1, htree.2.2⟩

theorem RecordEdit.wellFormed {names : List String} {edit : String → Tree → Tree → Prop}
    {tree edited : Tree}
    (hedit : ∀ {key value edited}, edit key value edited → value.WellFormed → edited.WellFormed)
    (h : RecordEdit names edit tree edited) (htree : tree.WellFormed) : edited.WellFormed := by
  cases h with
  | insert before after _ hvalue =>
    simp only [wellFormed_object, List.forall_mem_append, List.forall_mem_cons] at htree ⊢
    exact ⟨htree.1, hvalue, htree.2⟩
  | reorder hperm =>
    simp only [wellFormed_object] at htree ⊢
    exact fun member hmember => htree member (hperm.mem_iff.mpr hmember)
  | member before after _ hmember =>
    simp only [wellFormed_object, List.forall_mem_append, List.forall_mem_cons] at htree ⊢
    exact ⟨htree.1, hedit hmember htree.2.1, htree.2.2⟩
  | item before after _ hitem =>
    simp only [wellFormed_list, List.forall_mem_append, List.forall_mem_cons] at htree ⊢
    exact ⟨htree.1, hedit hitem htree.2.1, htree.2.2⟩

/-! ## Lists -/

theorem Items.decode_edit {α : Type} {decoder : Decoder α} {value edited : Tree}
    (h : decoder.Keeps value edited) (before after : List Tree) {xs : List α}
    (hread : (ofList (before ++ value :: after)).decode decoder = .ok xs) :
    (ofList (before ++ edited :: after)).decode decoder = .ok xs := by
  induction before generalizing xs with
  | nil =>
    obtain ⟨x, more, hvalue, hmore, rfl⟩ := decode_cons.mp hread
    exact decode_cons.mpr ⟨x, more, h x hvalue, hmore, rfl⟩
  | cons first before ih =>
    obtain ⟨x, more, hfirst, hmore, rfl⟩ := decode_cons.mp hread
    exact decode_cons.mpr ⟨x, more, hfirst, ih hmore, rfl⟩

theorem Decoder.list_keeps {α : Type} {decoder : Decoder α} {edit : Tree → Tree → Prop}
    {tree edited : Tree} (hedit : ∀ {value edited}, edit value edited → decoder.Keeps value edited)
    (h : ListEdit edit tree edited) : (Decoder.list decoder).Keeps tree edited := by
  cases h with
  | item before after hitem =>
    intro xs hread
    exact Items.decode_edit (hedit hitem) before after hread

/-! ## Records -/

namespace RecordField

variable {δ : Type}

/-- Two fields that do not meet in the draft: neither sets the other, and it does not matter which
of them is read first. -/
structure Apart (f g : RecordField δ) : Prop where
  left : ∀ {tree draft next}, g.read tree draft = .ok next → f.isSet next = f.isSet draft
  right : ∀ {tree draft next}, f.read tree draft = .ok next → g.isSet next = g.isSet draft
  comm : ∀ value other draft last,
    (∃ next, f.read value draft = .ok next ∧ g.read other next = .ok last) ↔
      ∃ next, g.read other draft = .ok next ∧ f.read value next = .ok last

instance : Std.Symm (Apart (δ := δ)) where
  symm _ _ h := ⟨h.right, h.left, fun value other draft last => (h.comm other value draft last).symm⟩

/-- Fields that are marked in the draft once they are read, and do not meet there. -/
structure Independent (fields : List (RecordField δ)) : Prop where
  marks : ∀ field ∈ fields, ∀ {tree draft next}, field.read tree draft = .ok next →
    field.isSet next = true
  apart : fields.Pairwise Apart

section

variable {β γ : Type} {name other : String} {decoder : Decoder β} {another : Decoder γ}
  {get : δ → Option β} {set : β → δ → δ} {get' : δ → Option γ} {set' : γ → δ → δ}

theorem ofOption_keeps {value edited : Tree} (h : decoder.Keeps value edited) (draft : δ) :
    Decoder.Keeps ((ofOption name decoder get set).read · draft) value edited := by
  intro next hread
  obtain ⟨x, hx, rfl⟩ := ofOption_read.mp hread
  exact ofOption_read.mpr ⟨x, h x hx, rfl⟩

theorem ofOption_marks (h : ∀ x draft, get (set x draft) = some x) {tree : Tree} {draft next : δ}
    (hread : (ofOption name decoder get set).read tree draft = .ok next) :
    (ofOption name decoder get set).isSet next = true := by
  obtain ⟨x, -, rfl⟩ := ofOption_read.mp hread
  simp only [ofOption, h, Option.isSome_some]

/-- Fields held in different places of the draft do not meet. -/
theorem ofOption_apart (hleft : ∀ y draft, get (set' y draft) = get draft)
    (hright : ∀ x draft, get' (set x draft) = get' draft)
    (hcomm : ∀ x y draft, set' y (set x draft) = set x (set' y draft)) :
    (ofOption name decoder get set).Apart (ofOption other another get' set') where
  left hread := by
    obtain ⟨y, -, rfl⟩ := ofOption_read.mp hread
    simp only [ofOption, hleft]
  right hread := by
    obtain ⟨x, -, rfl⟩ := ofOption_read.mp hread
    simp only [ofOption, hright]
  comm value other draft last := by
    simp only [ofOption_read]
    constructor
    · rintro ⟨_, ⟨x, hx, rfl⟩, y, hy, rfl⟩
      exact ⟨_, ⟨y, hy, rfl⟩, x, hx, hcomm x y draft⟩
    · rintro ⟨_, ⟨y, hy, rfl⟩, x, hx, rfl⟩
      exact ⟨_, ⟨x, hx, rfl⟩, y, hy, (hcomm x y draft).symm⟩

end

end RecordField

namespace RecordType

variable {δ α : Type} {fields : List (RecordField δ)} {draft next : δ}

/-- Members that are read one after the other are also read the other way round. -/
theorem readMember_swap (h : RecordField.Independent fields) {first second : Option String × Tree}
    {last : δ} (hfirst : readMember fields draft first = .ok next)
    (hsecond : readMember fields next second = .ok last) :
    ∃ between, readMember fields draft second = .ok between ∧
      readMember fields between first = .ok last := by
  obtain ⟨key, hkey, ⟨hnone, hskip, rfl⟩ | ⟨f, hf, hfree, hread⟩⟩ := readMember_ok.mp hfirst
  · exact ⟨last, hsecond, readMember_ok.mpr ⟨key, hkey, .inl ⟨hnone, hskip, rfl⟩⟩⟩
  · obtain ⟨key', hkey', ⟨hnone, hskip, rfl⟩ | ⟨g, hg, hfree', hread'⟩⟩ := readMember_ok.mp hsecond
    · exact ⟨draft, readMember_ok.mpr ⟨key', hkey', .inl ⟨hnone, hskip, rfl⟩⟩, hfirst⟩
    · -- One field is not read twice, so these are two fields that do not meet.
      have hne : f ≠ g := by
        rintro rfl
        rw [h.marks f (List.mem_of_find?_eq_some hf) hread] at hfree'
        cases hfree'
      have hapart : f.Apart g := h.apart.forall
        (List.mem_of_find?_eq_some hf) (List.mem_of_find?_eq_some hg) hne
      obtain ⟨between, hsecondFirst, hfirstLast⟩ :=
        (hapart.comm first.2 second.2 draft last).mp ⟨next, hread, hread'⟩
      have hfreeSecond : g.isSet draft = false := (hapart.right hread).symm.trans hfree'
      have hfreeFirst : f.isSet between = false := (hapart.left hsecondFirst).trans hfree
      exact ⟨between, readMember_ok.mpr ⟨key', hkey', .inr ⟨g, hg, hfreeSecond, hsecondFirst⟩⟩,
        readMember_ok.mpr ⟨key, hkey, .inr ⟨f, hf, hfreeFirst, hfirstLast⟩⟩⟩

/-- Members are read to the same draft in every order. -/
theorem readMembers_reorder (h : RecordField.Independent fields)
    {members edited : List (Option String × Tree)} (hperm : members.Perm edited)
    (hread : readMembers fields (.ofList members) draft = .ok next) :
    readMembers fields (.ofList edited) draft = .ok next := by
  -- A permutation is a chain of swaps of neighbours, each under some members that stay first.
  induction hperm generalizing draft with
  | nil => exact hread
  | cons member _ ih =>
    obtain ⟨between, hmember, hrest⟩ := readMembers_cons.mp hread
    exact readMembers_cons.mpr ⟨between, hmember, ih hrest⟩
  | swap second first rest =>
    obtain ⟨_, hfirst, hmore⟩ := readMembers_cons.mp hread
    obtain ⟨_, hsecond, hrest⟩ := readMembers_cons.mp hmore
    obtain ⟨between, hswapped, hlast⟩ := readMember_swap h hfirst hsecond
    exact readMembers_cons.mpr ⟨between, hswapped, readMembers_cons.mpr ⟨_, hlast, hrest⟩⟩
  | trans _ _ ih ih' => exact ih' (ih hread)

theorem readMembers_insert {key : String} {value : Tree}
    (hkey : key ∉ fields.map RecordField.name) (hvalue : value.WellFormed)
    (before after : List (Option String × Tree))
    (hread : readMembers fields (.ofList (before ++ after)) draft = .ok next) :
    readMembers fields (.ofList (before ++ (some key, value) :: after)) draft = .ok next := by
  obtain ⟨between, hbefore, hafter⟩ := readMembers_append.mp hread
  have hnone : (fields.find? fun field => field.name = key) = none := by
    rw [List.find?_eq_none]
    intro field hfield hname
    exact hkey (List.mem_map.mpr ⟨field, hfield, by simpa using hname⟩)
  obtain ⟨word, hword⟩ := hvalue
  have hmember : readMember fields between (some key, value) = .ok between :=
    readMember_ok.mpr ⟨key, rfl, .inl ⟨hnone, hword.skipFault?, rfl⟩⟩
  exact readMembers_append.mpr ⟨between, hbefore, readMembers_cons.mpr ⟨between, hmember, hafter⟩⟩

theorem readMembers_edit {key : String} {value edited : Tree}
    (hkey : key ∈ fields.map RecordField.name)
    (hkeeps : ∀ field ∈ fields, field.name = key → ∀ draft,
      Decoder.Keeps (field.read · draft) value edited)
    (before after : List (Option String × Tree))
    (hread : readMembers fields (.ofList (before ++ (some key, value) :: after)) draft = .ok next) :
    readMembers fields (.ofList (before ++ (some key, edited) :: after)) draft = .ok next := by
  obtain ⟨between, hbefore, hmore⟩ := readMembers_append.mp hread
  obtain ⟨last, hmember, hafter⟩ := readMembers_cons.mp hmore
  refine readMembers_append.mpr ⟨between, hbefore, readMembers_cons.mpr ⟨last, ?_, hafter⟩⟩
  obtain ⟨_, hsame, ⟨hnone, -⟩ | ⟨field, hfield, hfree, hvalue⟩⟩ := readMember_ok.mp hmember
  · cases hsame
    obtain ⟨field, hmem, hname⟩ := List.mem_map.mp hkey
    exact absurd (decide_eq_true hname) (List.find?_eq_none.mp hnone field hmem)
  · cases hsame
    have hname : field.name = key := by simpa using List.find?_some hfield
    have hedited := hkeeps field (List.mem_of_find?_eq_some hfield) hname between last hvalue
    exact readMember_ok.mpr ⟨key, rfl, .inr ⟨field, hfield, hfree, hedited⟩⟩

/-- In the list of the fields, an item belongs to the field of its place. -/
theorem readItems_edit {field : RecordField δ} {value edited : Tree}
    (hkeeps : ∀ draft, Decoder.Keeps (field.read · draft) value edited) {before : List Tree}
    (hfield : fields[before.length]? = some field) (after : List Tree)
    (hread : readItems fields (.ofList (before ++ value :: after)) draft = .ok next) :
    readItems fields (.ofList (before ++ edited :: after)) draft = .ok next := by
  -- Every item before the edited one takes off one field.
  induction before generalizing fields draft with
  | nil =>
    cases fields with
    | nil => cases hfield
    | cons first rest =>
      cases hfield
      obtain ⟨between, hvalue, hafter⟩ := readItems_cons.mp hread
      exact readItems_cons.mpr ⟨between, hkeeps draft between hvalue, hafter⟩
  | cons item before ih =>
    cases fields with
    | nil => cases hfield
    | cons first rest =>
      obtain ⟨between, hitem, hmore⟩ := readItems_cons.mp hread
      exact readItems_cons.mpr ⟨between, hitem, ih hfield hmore⟩

/-- A record is read from the edited tree just as before, if its fields are independent and each
reads what it did from its own edited values. -/
theorem decode_keeps {type : RecordType δ α} (hfields : RecordField.Independent type.fields)
    {edit : String → Tree → Tree → Prop}
    (hedit : ∀ {key value edited}, edit key value edited → ∀ field ∈ type.fields,
      field.name = key → ∀ draft, Decoder.Keeps (field.read · draft) value edited)
    {tree edited : Tree} (h : RecordEdit (type.fields.map RecordField.name) edit tree edited) :
    Decoder.Keeps type.decode tree edited := by
  intro x hread
  cases h with
  | insert before after hkey hvalue =>
    obtain ⟨draft, hmembers, hfinish⟩ := decode_object.mp hread
    exact decode_object.mpr ⟨draft, readMembers_insert hkey hvalue before after hmembers, hfinish⟩
  | reorder hperm =>
    obtain ⟨draft, hmembers, hfinish⟩ := decode_object.mp hread
    exact decode_object.mpr ⟨draft, readMembers_reorder hfields hperm hmembers, hfinish⟩
  | member before after hkey hvalue =>
    obtain ⟨draft, hmembers, hfinish⟩ := decode_object.mp hread
    exact decode_object.mpr
      ⟨draft, readMembers_edit hkey (hedit hvalue) before after hmembers, hfinish⟩
  | item before after hkey hvalue =>
    obtain ⟨draft, hitems, hfinish⟩ := decode_list.mp hread
    rw [List.getElem?_map] at hkey
    obtain ⟨field, hfield, hname⟩ := Option.map_eq_some_iff.mp hkey
    have hkeeps := hedit hvalue field (List.mem_of_getElem? hfield) hname
    exact decode_list.mpr ⟨draft, readItems_edit hkeeps hfield after hitems, hfinish⟩

end RecordType

end BenchReport.Json
