import BenchReport.Json.Decoding
import BenchReport.Proofs.Json.Number
import BenchReport.Proofs.Json.String

/-!
The grammar of JSON: which texts spell a tree, with any blanks between the tokens. A reader with
enough fuel reads every spelling as its tree.
-/
namespace BenchReport.Json

/-- Blanks between tokens. -/
def Gap (text : List Char) : Prop := ∀ c ∈ text, isGap c = true

/-- What stands before an element: blanks, with a comma among them unless it is the first. -/
def Lead (first : Bool) (text : List Char) : Prop :=
  if first then Gap text
  else ∃ before after, Gap before ∧ Gap after ∧ text = before ++ ',' :: after

/-- A number, of which the reader leaves nothing. -/
def NumberSpelled (tree : Tree) (text : List Char) : Prop :=
  ∃ negative digits, text = (if negative then '-' :: digits else digits) ∧
    readNumber negative digits = .ok (tree, [])

/-- A string with its quotes; one without Unicode text is `none`. -/
def StringSpelled (s : Option String) (text : List Char) : Prop :=
  ∃ body, text = '"' :: body ∧ readString body = .ok (s, [])

mutual

/-- The texts that spell a value. -/
def Tree.Spelled : Tree → List Char → Prop
  | .null, text => text = ['n', 'u', 'l', 'l']
  | .bool true, text => text = ['t', 'r', 'u', 'e']
  | .bool false, text => text = ['f', 'a', 'l', 's', 'e']
  | .integer n, text => NumberSpelled (.integer n) text
  | .real x, text => NumberSpelled (.real x) text
  | .tooLarge, text => NumberSpelled .tooLarge text
  | .string s, text => StringSpelled (some s) text
  | .unpaired, text => StringSpelled none text
  | .list items, text => ∃ body, text = '[' :: body ∧ items.Spelled true body
  | .object members, text => ∃ body, text = '\x7b' :: body ∧ members.Spelled true body
  | .broken _, _ => False
termination_by structural tree => tree

/-- The texts that spell items and the end of their list. -/
def Items.Spelled : Items → Bool → List Char → Prop
  | .close, _, text => ∃ gap, Gap gap ∧ text = gap ++ [']']
  | .stop _, _, _ => False
  | .item value items, first, text => ∃ lead word more,
    Lead first lead ∧ value.Spelled word ∧ items.Spelled false more ∧ text = lead ++ (word ++ more)
termination_by structural items => items

/-- The texts that spell members and the end of their object. -/
def Members.Spelled : Members → Bool → List Char → Prop
  | .close, _, text => ∃ gap, Gap gap ∧ text = gap ++ ['\x7d']
  | .stop _, _, _ => False
  | .keyless _ _, _, _ => False
  | .member key value members, first, text => ∃ lead name before after word more,
    Lead first lead ∧ StringSpelled key name ∧ Gap before ∧ Gap after ∧ value.Spelled word ∧
      members.Spelled false more ∧
      text = lead ++ (name ++ (before ++ ':' :: (after ++ (word ++ more))))
termination_by structural members => members

end

/-! ## Tokens -/

@[simp] theorem gap_nil : Gap [] := fun _ h => nomatch h

theorem skipGap_cons {gap : List Char} (hgap : Gap gap) {c : Char} (hc : isGap c = false)
    (text : List Char) : skipGap (gap ++ c :: text) = c :: text := by
  unfold skipGap
  rw [List.dropWhile_append_of_pos hgap, List.dropWhile_cons_of_neg (by simp [hc])]

/-- A blank cannot continue a number. -/
theorem numberEnd_append {gap text : List Char} (hgap : Gap gap) (h : NumberEnd text) :
    NumberEnd (gap ++ text) := by
  cases gap with
  | nil => exact h
  | cons c gap =>
    have hc : isGap c = true := hgap c List.mem_cons_self
    simp only [isGap, Bool.or_eq_true, beq_iff_eq] at hc
    apply numberEnd_cons
    rcases hc with ((rfl | rfl) | rfl) | rfl <;> decide

theorem Items.Spelled.numberEnd {items : Items} {text : List Char} (h : items.Spelled false text)
    (rest : List Char) : NumberEnd (text ++ rest) := by
  cases items with
  | close =>
    obtain ⟨gap, hgap, rfl⟩ := h
    rw [List.append_assoc]
    exact numberEnd_append hgap (numberEnd_cons (by decide))
  | stop => exact absurd h id
  | item value items =>
    obtain ⟨lead, word, more, ⟨before, after, hbefore, -, rfl⟩, -, -, rfl⟩ := h
    simp only [List.append_assoc, List.cons_append]
    exact numberEnd_append hbefore (numberEnd_cons (by decide))

theorem Members.Spelled.numberEnd {members : Members} {text : List Char}
    (h : members.Spelled false text) (rest : List Char) : NumberEnd (text ++ rest) := by
  cases members with
  | close =>
    obtain ⟨gap, hgap, rfl⟩ := h
    rw [List.append_assoc]
    exact numberEnd_append hgap (numberEnd_cons (by decide))
  | stop => exact absurd h id
  | keyless => exact absurd h id
  | member key value members =>
    obtain ⟨lead, name, _, _, word, more, ⟨before, after, hbefore, -, rfl⟩, -, -, -, -, -, rfl⟩ := h
    simp only [List.append_assoc, List.cons_append]
    exact numberEnd_append hbefore (numberEnd_cons (by decide))

/-- A number without its sign begins with a digit. -/
theorem readNumber_head {negative : Bool} {text : List Char} {tree : Tree} {rest : List Char}
    (h : readNumber negative text = .ok (tree, rest)) :
    ∃ c more, text = c :: more ∧ c.isDigit = true := by
  cases text with
  | nil => cases h
  | cons c more =>
    refine ⟨c, more, rfl, ?_⟩
    by_contra hc
    have hzero : c ≠ '0' := by
      rintro rfl
      exact hc rfl
    simp [readNumber, readWhole, hc] at h

theorem NumberSpelled.head {tree : Tree} {text : List Char} (h : NumberSpelled tree text) :
    ∃ c more, text = c :: more ∧ isGap c = false ∧ c ≠ ']' := by
  obtain ⟨negative, digits, rfl, hread⟩ := h
  cases negative with
  | true => exact ⟨'-', digits, rfl, by decide, by decide⟩
  | false =>
    obtain ⟨c, more, rfl, hc⟩ := readNumber_head hread
    refine ⟨c, more, rfl, ?_, ?_⟩
    · by_contra hgap
      simp only [isGap, Bool.not_eq_false, Bool.or_eq_true, beq_iff_eq] at hgap
      rcases hgap with ((rfl | rfl) | rfl) | rfl <;> exact absurd hc (by decide)
    · rintro rfl
      exact absurd hc (by decide)

/-- No spelling of a value is empty, or begins with a blank or with the end of a list. -/
theorem Tree.Spelled.head {tree : Tree} {text : List Char} (h : tree.Spelled text) :
    ∃ c more, text = c :: more ∧ isGap c = false ∧ c ≠ ']' := by
  cases tree with
  | null => exact ⟨_, _, h, by decide, by decide⟩
  | bool b => cases b <;> exact ⟨_, _, h, by decide, by decide⟩
  | integer n => exact NumberSpelled.head h
  | real x => exact NumberSpelled.head h
  | tooLarge => exact NumberSpelled.head h
  | string s =>
    obtain ⟨body, rfl, -⟩ := h
    exact ⟨_, _, rfl, by decide, by decide⟩
  | unpaired =>
    obtain ⟨body, rfl, -⟩ := h
    exact ⟨_, _, rfl, by decide, by decide⟩
  | list items =>
    obtain ⟨body, rfl, -⟩ := h
    exact ⟨_, _, rfl, by decide, by decide⟩
  | object members =>
    obtain ⟨body, rfl, -⟩ := h
    exact ⟨_, _, rfl, by decide, by decide⟩
  | broken b => exact absurd h id

/-! ## Reading -/

theorem readValue_digit {c : Char} (hc : c.isDigit = true) {text more : List Char}
    (htext : skipGap text = c :: more) (fuel : Nat) :
    readValue (fuel + 1) text = leaf (readNumber false (c :: more)) := by
  rw [readValue, htext]
  split
  case h_9 heq =>
    cases heq
    rw [if_pos hc]
  case h_1 heq => cases heq
  all_goals
    rename_i heq
    cases heq
    exact absurd hc (by decide)

theorem readValue_number {gap text rest : List Char} {tree : Tree} {fuel : Nat} (hgap : Gap gap)
    (h : NumberSpelled tree text) (hrest : NumberEnd rest) :
    readValue (fuel + 1) (gap ++ (text ++ rest)) = (tree, some rest) := by
  obtain ⟨c, more, hcons, hgapc, -⟩ := h.head
  obtain ⟨negative, digits, rfl, hread⟩ := h
  have happend := readNumber_append hrest hread
  rw [hcons, List.cons_append]
  have hskip := skipGap_cons hgap hgapc (more ++ rest)
  cases negative with
  | true =>
    obtain ⟨rfl, rfl⟩ := List.cons.inj hcons
    simp only [readValue, hskip, happend]
    rfl
  | false =>
    obtain ⟨_, _, hdigits, hc⟩ := readNumber_head hread
    obtain ⟨rfl, rfl⟩ := List.cons.inj (hcons.symm.trans hdigits)
    rw [readValue_digit hc hskip, ← List.cons_append, ← hdigits, happend]
    rfl

theorem readValue_string {gap text rest : List Char} {s : Option String} {fuel : Nat}
    (hgap : Gap gap) (h : StringSpelled s text) :
    readValue (fuel + 1) (gap ++ (text ++ rest)) = (s.elim .unpaired .string, some rest) := by
  obtain ⟨body, rfl, hread⟩ := h
  have hskip := skipGap_cons hgap (show isGap '"' = false by decide) (body ++ rest)
  simp only [List.cons_append, readValue, hskip, readString_append hread]
  cases s <;> rfl

/-- The first item is read once its value and what follows are. -/
theorem readItems_of {lead word rest tail : List Char} {value : Tree} {items : Items} {fuel : Nat}
    (hlead : Gap lead) (hword : value.Spelled word)
    (hvalue : readValue fuel (word ++ rest) = (value, some rest))
    (hmore : readMoreItems fuel rest = (items, some tail)) :
    readItems (fuel + 1) (lead ++ (word ++ rest)) = (.item value items, some tail) := by
  obtain ⟨c, more, rfl, hc, hclose⟩ := hword.head
  have hskip := skipGap_cons hlead hc (more ++ rest)
  rw [List.cons_append] at hvalue ⊢
  rw [readItems, hskip]
  split
  case h_1 heq => exact absurd (List.cons.inj heq).1 hclose
  case h_2 heq => cases heq
  case h_3 => simp only [hvalue, hmore]

/-- A member is read once its value and what follows are. -/
theorem readMember_of {lead name before after word rest tail : List Char} {key : Option String}
    {value : Tree} {members : Members} {fuel : Nat} (hlead : Gap lead)
    (hname : StringSpelled key name) (hbefore : Gap before)
    (hvalue : readValue fuel (after ++ (word ++ rest)) = (value, some rest))
    (hmore : readMoreMembers fuel rest = (members, some tail)) :
    readMember (fuel + 1) (lead ++ (name ++ (before ++ ':' :: (after ++ (word ++ rest))))) =
      (.member key value members, some tail) := by
  obtain ⟨body, rfl, hread⟩ := hname
  have hskip := skipGap_cons hlead (show isGap '"' = false by decide)
    (body ++ (before ++ ':' :: (after ++ (word ++ rest))))
  have hcolon := skipGap_cons hbefore (show isGap ':' = false by decide) (after ++ (word ++ rest))
  simp only [List.cons_append, readMember, hskip, readString_append hread, List.nil_append, hcolon,
    hvalue, hmore]

mutual

/-- A value is read from each of its spellings. Three units of fuel for every character are
enough: an object takes three on its way to its first value. -/
theorem readValue_spelled (tree : Tree) {gap text rest : List Char} {fuel : Nat} (hgap : Gap gap)
    (h : tree.Spelled text) (hrest : NumberEnd rest) (hfuel : 3 * (text ++ rest).length ≤ fuel) :
    readValue fuel (gap ++ (text ++ rest)) = (tree, some rest) := by
  obtain ⟨fuel, rfl⟩ : ∃ n, fuel = n + 1 := by
    obtain ⟨c, more, rfl, -⟩ := h.head
    exact Nat.exists_eq_add_one_of_ne_zero (by simp at hfuel; omega)
  cases tree with
  | null =>
    obtain rfl : text = _ := h
    have hskip := skipGap_cons hgap (show isGap 'n' = false by decide)
    simp [readValue, hskip, readWord, Except.map, leaf]
  | bool b =>
    cases b with
    | true =>
      obtain rfl : text = _ := h
      have hskip := skipGap_cons hgap (show isGap 't' = false by decide)
      simp [readValue, hskip, readWord, Except.map, leaf]
    | false =>
      obtain rfl : text = _ := h
      have hskip := skipGap_cons hgap (show isGap 'f' = false by decide)
      simp [readValue, hskip, readWord, Except.map, leaf]
  | integer n => exact readValue_number hgap h hrest
  | real x => exact readValue_number hgap h hrest
  | tooLarge => exact readValue_number hgap h hrest
  | string s => exact readValue_string hgap h
  | unpaired => exact readValue_string hgap h
  | list items =>
    obtain ⟨body, rfl, hitems⟩ := h
    have hskip := skipGap_cons hgap (show isGap '[' = false by decide) (body ++ rest)
    have hroom : 3 * (body ++ rest).length + 1 ≤ fuel := by
      simp only [List.cons_append, List.length_cons] at hfuel
      omega
    simp only [List.cons_append, readValue, hskip, readItems_spelled items hitems hroom]
  | object members =>
    obtain ⟨body, rfl, hmembers⟩ := h
    have hskip := skipGap_cons hgap (show isGap '\x7b' = false by decide) (body ++ rest)
    have hroom : 3 * (body ++ rest).length + 2 ≤ fuel := by
      simp only [List.cons_append, List.length_cons] at hfuel
      omega
    simp only [List.cons_append, readValue, hskip, readMembers_spelled members hmembers hroom]
  | broken b => exact absurd h id
termination_by structural tree

theorem readItems_spelled (items : Items) {text rest : List Char} {fuel : Nat}
    (h : items.Spelled true text) (hfuel : 3 * (text ++ rest).length + 1 ≤ fuel) :
    readItems fuel (text ++ rest) = (items, some rest) := by
  obtain ⟨fuel, rfl⟩ : ∃ n, fuel = n + 1 := Nat.exists_eq_add_one_of_ne_zero (by omega)
  cases items with
  | close =>
    obtain ⟨gap, hgap, rfl⟩ := h
    have hskip := skipGap_cons hgap (show isGap ']' = false by decide) rest
    simp only [List.append_assoc, List.cons_append, List.nil_append, readItems, hskip]
  | stop b => exact absurd h id
  | item value items =>
    obtain ⟨lead, word, more, hlead, hword, hmore, rfl⟩ := h
    simp only [List.length_append] at hfuel
    have hroom : 3 * (word ++ (more ++ rest)).length ≤ fuel := by
      simp only [List.length_append]
      omega
    have hmoreRoom : 3 * (more ++ rest).length ≤ fuel := by
      simp only [List.length_append]
      omega
    rw [List.append_assoc, List.append_assoc]
    exact readItems_of hlead hword
      (readValue_spelled value gap_nil hword (hmore.numberEnd rest) hroom)
      (readMoreItems_spelled items hmore hmoreRoom)
termination_by structural items

theorem readMoreItems_spelled (items : Items) {text rest : List Char} {fuel : Nat}
    (h : items.Spelled false text) (hfuel : 3 * (text ++ rest).length ≤ fuel) :
    readMoreItems fuel (text ++ rest) = (items, some rest) := by
  cases items with
  | close =>
    obtain ⟨gap, hgap, rfl⟩ := h
    simp only [List.length_append, List.length_cons] at hfuel
    obtain ⟨fuel, rfl⟩ : ∃ n, fuel = n + 1 := Nat.exists_eq_add_one_of_ne_zero (by omega)
    have hskip := skipGap_cons hgap (show isGap ']' = false by decide) rest
    simp only [List.append_assoc, List.cons_append, List.nil_append, readMoreItems, hskip]
  | stop b => exact absurd h id
  | item value items =>
    obtain ⟨_, word, more, ⟨before, after, hbefore, hafter, rfl⟩, hword, hmore, rfl⟩ := h
    simp only [List.length_append, List.length_cons] at hfuel
    obtain ⟨fuel, rfl⟩ : ∃ n, fuel = n + 1 := Nat.exists_eq_add_one_of_ne_zero (by omega)
    have hroom : 3 * (word ++ (more ++ rest)).length ≤ fuel := by
      simp only [List.length_append]
      omega
    have hmoreRoom : 3 * (more ++ rest).length ≤ fuel := by
      simp only [List.length_append]
      omega
    have hskip := skipGap_cons hbefore (show isGap ',' = false by decide)
      (after ++ (word ++ (more ++ rest)))
    have hvalue := readValue_spelled value hafter hword (hmore.numberEnd rest) hroom
    have hitems := readMoreItems_spelled items hmore hmoreRoom
    simp only [List.append_assoc, List.cons_append, readMoreItems, hskip, hvalue, hitems]
termination_by structural items

theorem readMembers_spelled (members : Members) {text rest : List Char} {fuel : Nat}
    (h : members.Spelled true text) (hfuel : 3 * (text ++ rest).length + 2 ≤ fuel) :
    readMembers fuel (text ++ rest) = (members, some rest) := by
  obtain ⟨fuel, rfl⟩ : ∃ n, fuel = n + 1 := Nat.exists_eq_add_one_of_ne_zero (by omega)
  cases members with
  | close =>
    obtain ⟨gap, hgap, rfl⟩ := h
    have hskip := skipGap_cons hgap (show isGap '\x7d' = false by decide) rest
    simp only [List.append_assoc, List.cons_append, List.nil_append, readMembers, hskip]
  | stop b => exact absurd h id
  | keyless fault value => exact absurd h id
  | member key value members =>
    obtain ⟨lead, name, before, after, word, more, hlead, hname, hbefore, hafter, hword, hmore,
      rfl⟩ := h
    simp only [List.length_append, List.length_cons] at hfuel
    obtain ⟨fuel, rfl⟩ : ∃ n, fuel = n + 1 := Nat.exists_eq_add_one_of_ne_zero (by omega)
    have hroom : 3 * (word ++ (more ++ rest)).length ≤ fuel := by
      simp only [List.length_append]
      omega
    have hmoreRoom : 3 * (more ++ rest).length ≤ fuel := by
      simp only [List.length_append]
      omega
    have hvalue := readValue_spelled value hafter hword (hmore.numberEnd rest) hroom
    have hmembers := readMoreMembers_spelled members hmore hmoreRoom
    have hmember := readMember_of gap_nil hname hbefore hvalue hmembers
    obtain ⟨body, rfl, -⟩ := hname
    have hskip := skipGap_cons hlead (show isGap '"' = false by decide)
      (body ++ (before ++ ':' :: (after ++ (word ++ (more ++ rest)))))
    simp only [List.nil_append, List.cons_append] at hmember
    simp only [List.append_assoc, List.cons_append, readMembers, hskip]
    exact hmember
termination_by structural members

theorem readMoreMembers_spelled (members : Members) {text rest : List Char} {fuel : Nat}
    (h : members.Spelled false text) (hfuel : 3 * (text ++ rest).length ≤ fuel) :
    readMoreMembers fuel (text ++ rest) = (members, some rest) := by
  cases members with
  | close =>
    obtain ⟨gap, hgap, rfl⟩ := h
    simp only [List.length_append, List.length_cons] at hfuel
    obtain ⟨fuel, rfl⟩ : ∃ n, fuel = n + 1 := Nat.exists_eq_add_one_of_ne_zero (by omega)
    have hskip := skipGap_cons hgap (show isGap '\x7d' = false by decide) rest
    simp only [List.append_assoc, List.cons_append, List.nil_append, readMoreMembers, hskip]
  | stop b => exact absurd h id
  | keyless fault value => exact absurd h id
  | member key value members =>
    obtain ⟨_, name, before, after, word, more, ⟨lead, gap, hlead, hgap, rfl⟩, hname, hbefore,
      hafter, hword, hmore, rfl⟩ := h
    simp only [List.length_append, List.length_cons] at hfuel
    obtain ⟨fuel, rfl⟩ : ∃ n, fuel = n + 2 := ⟨fuel - 2, by omega⟩
    have hroom : 3 * (word ++ (more ++ rest)).length ≤ fuel := by
      simp only [List.length_append]
      omega
    have hmoreRoom : 3 * (more ++ rest).length ≤ fuel := by
      simp only [List.length_append]
      omega
    have hvalue := readValue_spelled value hafter hword (hmore.numberEnd rest) hroom
    have hmembers := readMoreMembers_spelled members hmore hmoreRoom
    have hmember := readMember_of hgap hname hbefore hvalue hmembers
    have hskip := skipGap_cons hlead (show isGap ',' = false by decide)
      (gap ++ (name ++ (before ++ ':' :: (after ++ (word ++ (more ++ rest))))))
    simp only [List.append_assoc, List.cons_append, readMoreMembers, hskip, hmember]
termination_by structural members

end

/-- A text that spells a value, with blanks around it, is read as that value. -/
theorem readTree_spelled {tree : Tree} {before text after : List Char} (hbefore : Gap before)
    (h : tree.Spelled text) (hafter : Gap after) :
    readTree (before ++ (text ++ after)) = (tree, some after) := by
  have hend : NumberEnd after := by simpa using numberEnd_append hafter numberEnd_nil
  apply readValue_spelled tree hbefore h hend
  simp only [List.length_append]
  omega

/-- A text spells a value, with blanks around it. -/
def Spells (text : String) (tree : Tree) : Prop :=
  ∃ before word after, Gap before ∧ tree.Spelled word ∧ Gap after ∧
    text.toList = before ++ (word ++ after)

theorem Tree.Spelled.spells {tree : Tree} {word : List Char} (h : tree.Spelled word) :
    Spells (String.ofList word) tree :=
  ⟨[], word, [], gap_nil, h, gap_nil, by simp⟩

/-- Reading a text that spells a value is reading the value. -/
theorem Spells.decodeText_eq {α : Type} {text : String} {tree : Tree} (h : Spells text tree)
    (decoder : Decoder α) : decodeText decoder text = decoder tree := by
  obtain ⟨before, word, after, hbefore, hword, hafter, htext⟩ := h
  have hskip : skipGap after = [] := List.dropWhile_eq_nil_iff.mpr hafter
  rw [decodeText, htext, readTree_spelled hbefore hword hafter]
  simp only [hskip, List.isEmpty_nil, if_true]
  cases decoder tree <;> rfl

end BenchReport.Json
