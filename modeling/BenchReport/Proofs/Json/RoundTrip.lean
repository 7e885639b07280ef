import BenchReport.Proofs.Json.Grammar

/-! Both written forms of a JSON value spell the tree of the value, so both are read back. -/
namespace BenchReport.Json.Value

mutual

/-- The tree that a written value spells: what is no finite number is written as `null`. -/
def tree : Value → Tree
  | .null => .null
  | .bool b => .bool b
  | .number x => if x.isFinite then .real x else .null
  | .string s => .string s
  | .list items => .list (itemTrees items)
  | .object members => .object (memberTrees members)
termination_by structural v => v

/-- The trees of items. -/
def itemTrees : List Value → Items
  | [] => .close
  | first :: rest => .item first.tree (itemTrees rest)
termination_by structural items => items

/-- The trees of members. -/
def memberTrees : List (String × Value) → Members
  | [] => .close
  | (key, first) :: rest => .member (some key) first.tree (memberTrees rest)
termination_by structural members => members

end

theorem stringText_spelled (s : String) : StringSpelled (some s) (stringText s.toList) :=
  ⟨_, rfl, readString_escaped s⟩

theorem numberText_spelled (x : Binary64) : (number x).tree.Spelled (numberText x) := by
  cases x with
  | nan => rfl
  | infinite negative => rfl
  | finite negative rank =>
    obtain ⟨text, htext, hread⟩ := readNumber_numberText negative rank
    exact ⟨negative, text, htext, hread⟩

mutual

theorem compact_spelled (v : Value) : v.tree.Spelled v.compact := by
  cases v with
  | null => rfl
  | bool b => cases b <;> rfl
  | number x => exact numberText_spelled x
  | string s => exact stringText_spelled s
  | list items =>
    cases items with
    | nil => exact ⟨_, rfl, [], gap_nil, rfl⟩
    | cons first rest =>
      exact ⟨_, rfl, [], _, _, gap_nil, compact_spelled first, compactItems_spelled rest, rfl⟩
  | object members =>
    cases members with
    | nil => exact ⟨_, rfl, [], gap_nil, rfl⟩
    | cons member rest =>
      obtain ⟨key, first⟩ := member
      exact ⟨_, rfl, [], _, [], [], _, _, gap_nil, stringText_spelled key, gap_nil, gap_nil,
        compact_spelled first, compactMembers_spelled rest, rfl⟩
termination_by structural v

theorem compactItems_spelled (items : List Value) :
    (itemTrees items).Spelled false (compactItems items) := by
  cases items with
  | nil => exact ⟨[], gap_nil, rfl⟩
  | cons next rest =>
    exact ⟨[','], _, _, ⟨[], [], gap_nil, gap_nil, rfl⟩, compact_spelled next,
      compactItems_spelled rest, rfl⟩
termination_by structural items

theorem compactMembers_spelled (members : List (String × Value)) :
    (memberTrees members).Spelled false (compactMembers members) := by
  cases members with
  | nil => exact ⟨[], gap_nil, rfl⟩
  | cons member rest =>
    obtain ⟨key, next⟩ := member
    exact ⟨[','], _, [], [], _, _, ⟨[], [], gap_nil, gap_nil, rfl⟩, stringText_spelled key,
      gap_nil, gap_nil, compact_spelled next, compactMembers_spelled rest, rfl⟩
termination_by structural members

end

theorem gap_newline (level : Nat) : Gap (newline level) := by
  intro c hc
  rcases List.mem_cons.mp hc with rfl | hc
  · decide
  · rw [List.eq_of_mem_replicate hc]
    decide

theorem gap_space : Gap [' '] := by
  intro c hc
  rw [List.mem_singleton.mp hc]
  decide

mutual

theorem prettyAt_spelled (v : Value) (level : Nat) : v.tree.Spelled (v.prettyAt level) := by
  cases v with
  | null => rfl
  | bool b => cases b <;> rfl
  | number x => exact numberText_spelled x
  | string s => exact stringText_spelled s
  | list items =>
    cases items with
    | nil => exact ⟨_, rfl, [], gap_nil, rfl⟩
    | cons first rest =>
      exact ⟨_, rfl, newline (level + 1), _, _, gap_newline _, prettyAt_spelled first _,
        prettyItems_spelled rest level, rfl⟩
  | object members =>
    cases members with
    | nil => exact ⟨_, rfl, [], gap_nil, rfl⟩
    | cons member rest =>
      obtain ⟨key, first⟩ := member
      exact ⟨_, rfl, newline (level + 1), _, [], [' '], _, _, gap_newline _,
        stringText_spelled key, gap_nil, gap_space, prettyAt_spelled first _,
        prettyMembers_spelled rest level, rfl⟩
termination_by structural v

theorem prettyItems_spelled (items : List Value) (level : Nat) :
    (itemTrees items).Spelled false (prettyItems level items) := by
  cases items with
  | nil => exact ⟨newline level, gap_newline _, rfl⟩
  | cons next rest =>
    exact ⟨',' :: newline (level + 1), _, _, ⟨[], _, gap_nil, gap_newline _, rfl⟩,
      prettyAt_spelled next _, prettyItems_spelled rest level, rfl⟩
termination_by structural items

theorem prettyMembers_spelled (members : List (String × Value)) (level : Nat) :
    (memberTrees members).Spelled false (prettyMembers level members) := by
  cases members with
  | nil => exact ⟨newline level, gap_newline _, rfl⟩
  | cons member rest =>
    obtain ⟨key, next⟩ := member
    exact ⟨',' :: newline (level + 1), _, [], [' '], _, _,
      ⟨[], _, gap_nil, gap_newline _, rfl⟩, stringText_spelled key, gap_nil, gap_space,
      prettyAt_spelled next _, prettyMembers_spelled rest level, rfl⟩
termination_by structural members

end

/-- A reader of the compact text meets the tree of the value. -/
theorem decodeText_compactText {α : Type} (decoder : Decoder α) (v : Value) :
    decodeText decoder v.compactText = decoder v.tree :=
  v.compact_spelled.spells.decodeText_eq decoder

/-- A reader of the text with one element a line meets the tree of the value. -/
theorem decodeText_prettyText {α : Type} (decoder : Decoder α) (v : Value) :
    decodeText decoder v.prettyText = decoder v.tree :=
  (v.prettyAt_spelled 0).spells.decodeText_eq decoder

/-- A list is read item by item. -/
theorem decode_itemTrees {α β : Type} {decoder : Decoder β} {write : α → Value} {read : α → β}
    (h : ∀ x, decoder (write x).tree = .ok (read x)) (xs : List α) :
    (itemTrees (xs.map write)).decode decoder = .ok (xs.map read) := by
  induction xs with
  | nil => rfl
  | cons x xs ih => simp only [List.map_cons, itemTrees, Items.decode, h, ih]

theorem decode_list {α β : Type} {decoder : Decoder β} {write : α → Value} {read : α → β}
    (h : ∀ x, decoder (write x).tree = .ok (read x)) (xs : List α) :
    Decoder.list decoder (list (xs.map write)).tree = .ok (xs.map read) :=
  decode_itemTrees h xs

theorem decode_list_self {α : Type} {decoder : Decoder α} {write : α → Value}
    (h : ∀ x, decoder (write x).tree = .ok x) (xs : List α) :
    Decoder.list decoder (list (xs.map write)).tree = .ok xs := by
  have hlist := decode_list h xs
  rwa [List.map_id'] at hlist

theorem decode_strings (texts : List String) :
    Decoder.list Decoder.string (strings texts).tree = .ok texts :=
  decode_list_self (fun _ => rfl) texts

end BenchReport.Json.Value
