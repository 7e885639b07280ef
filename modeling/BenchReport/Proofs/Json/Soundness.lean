import BenchReport.Proofs.Json.Grammar

/-!
A reader of JSON reads nothing but spellings: what it takes off a text spells the tree that it
gives, and a typed value is read exactly from the texts that spell a tree which is decoded to it.
-/
namespace BenchReport.Json

/-! ## Tokens -/

theorem skipGap_split (text : List Char) : ∃ gap, Gap gap ∧ text = gap ++ skipGap text := by
  refine ⟨text.takeWhile isGap, fun c hc => ?_, List.takeWhile_append_dropWhile.symm⟩
  exact List.mem_takeWhile_imp hc

theorem readWord_sound {word text rest : List Char} (h : readWord word text = .ok rest) :
    text = word ++ rest := by
  induction word generalizing text with
  | nil =>
    cases h
    rfl
  | cons c word ih =>
    cases text with
    | nil => cases h
    | cons d text =>
      rw [readWord] at h
      split at h
      case isTrue hsame => rw [hsame, ih h, List.cons_append]
      case isFalse => cases h

/-- The text of a string ends with the quote that closes it. -/
theorem pieces_sound {text rest : List Char} {parts : List Piece}
    (h : pieces text = (parts, .quote rest)) :
    ∃ used, text = used ++ rest ∧ pieces used = (parts, .quote []) := by
  fun_induction pieces text generalizing parts with
  | case1 => cases h
  | case2 =>
    cases h
    exact ⟨['"'], rfl, by simp [pieces]⟩
  | case3 => cases h
  | case4 a b c d text n hunit found closing hfound ih =>
    cases h
    obtain ⟨used, rfl, hused⟩ := ih hfound
    refine ⟨'\\' :: 'u' :: a :: b :: c :: d :: used, rfl, ?_⟩
    rw [pieces_unit hunit, hused]
  | case5 => cases h
  | case6 => cases h
  | case7 c text _ hu e hshort found closing hfound ih =>
    cases h
    obtain ⟨used, rfl, hused⟩ := ih hfound
    refine ⟨'\\' :: c :: used, rfl, ?_⟩
    rw [pieces_short hu hshort, hused]
  | case8 => cases h
  | case9 => cases h
  | case10 c text hquote hend _ _ hescape hcontrol found closing hfound ih =>
    cases h
    obtain ⟨used, rfl, hused⟩ := ih hfound
    have hplain : c ≠ '\\' := by
      intro hc
      cases hrest : used ++ rest with
      | nil => exact hend hc hrest
      | cons d more => exact hescape d more hc hrest
    refine ⟨c :: used, rfl, ?_⟩
    rw [pieces_plain hquote hplain hcontrol, hused]

theorem readString_sound {text rest : List Char} {s : Option String}
    (h : readString text = .ok (s, rest)) :
    ∃ body, text = body ++ rest ∧ readString body = .ok (s, []) := by
  unfold readString at h
  split at h
  case h_1 parts found hfound =>
    cases h
    obtain ⟨used, hused, hpieces⟩ := pieces_sound hfound
    exact ⟨used, hused, by rw [readString, hpieces]⟩
  case h_2 => cases h

/-! ## Numbers -/

theorem readWhole_sound {text digits rest : List Char} (h : readWhole text = .ok (digits, rest)) :
    text = digits ++ rest ∧ readWhole digits = .ok (digits, []) := by
  cases text with
  | nil => cases h
  | cons c text =>
    by_cases hzero : c = '0'
    · subst hzero
      simp only [readWhole] at h
      split at h
      case isTrue =>
        cases h
        exact ⟨rfl, rfl⟩
      case isFalse => cases h
    · simp only [readWhole] at h
      split at h
      case isTrue hdigit =>
        cases h
        have hall : ∀ d ∈ c :: text.takeWhile Char.isDigit, d.isDigit = true :=
          List.forall_mem_cons.mpr ⟨hdigit, fun d hd => List.mem_takeWhile_imp hd⟩
        exact ⟨by rw [List.cons_append, List.takeWhile_append_dropWhile], readWhole_leads hzero hall⟩
      case isFalse => cases h

theorem readDigits_sound {text digits rest : List Char}
    (h : readDigits text = .ok (digits, rest)) :
    text = digits ++ rest ∧ readDigits digits = .ok (digits, []) := by
  simp only [readDigits] at h
  split at h
  case isTrue => cases h
  case isFalse hne =>
    cases h
    have hnil : text.takeWhile Char.isDigit ≠ [] := by simpa using hne
    exact ⟨List.takeWhile_append_dropWhile.symm,
      readDigits_all hnil fun c hc => List.mem_takeWhile_imp hc⟩

/-- The point and the digits after it, or nothing. -/
theorem readFraction_sound {text rest : List Char} {fraction : Option (List Char)}
    (h : readFraction text = .ok (fraction, rest)) :
    ∃ used, text = used ++ rest ∧ readFraction used = .ok (fraction, []) ∧
      ∀ c ∈ used.head?, c = '.' := by
  cases text with
  | nil =>
    cases h
    exact ⟨[], rfl, rfl, by simp⟩
  | cons c text =>
    by_cases hpoint : c = '.'
    · subst hpoint
      obtain ⟨found, hread, hfound⟩ := map_eq_ok.mp h
      cases hfound
      obtain ⟨htext, hdigits⟩ := readDigits_sound hread
      exact ⟨'.' :: found.1, congrArg _ htext, map_eq_ok.mpr ⟨_, hdigits, rfl⟩, by simp⟩
    · rw [readFraction_cons hpoint] at h
      cases h
      exact ⟨[], rfl, rfl, by simp⟩

/-- A sign is taken off whatever follows the digits after it. -/
theorem signOf_sound {text digits rest : List Char} (hne : digits ≠ [])
    (h : (signOf text).2 = digits ++ rest) :
    ∃ used, text = used ++ rest ∧ signOf used = ((signOf text).1, digits) := by
  cases text with
  | nil =>
    have hnil : digits ++ rest = [] := h.symm
    exact absurd (List.append_eq_nil_iff.mp hnil).1 hne
  | cons c text =>
    by_cases hplus : c = '+'
    · subst hplus
      exact ⟨'+' :: digits, congrArg _ h, rfl⟩
    · by_cases hminus : c = '-'
      · subst hminus
        exact ⟨'-' :: digits, congrArg _ h, rfl⟩
      · have hsign (more : List Char) : signOf (c :: more) = (false, c :: more) := by
          simp [signOf, hplus, hminus]
        rw [hsign] at h ⊢
        obtain ⟨d, more, rfl⟩ := List.exists_cons_of_ne_nil hne
        obtain ⟨rfl, -⟩ := List.cons.inj h
        exact ⟨c :: more, h, hsign more⟩

/-- The exponent with its letter, or nothing. -/
theorem readExponent_sound {text rest : List Char} {exponent : Option Int}
    (h : readExponent text = .ok (exponent, rest)) :
    ∃ used, text = used ++ rest ∧ readExponent used = .ok (exponent, []) ∧
      ∀ c ∈ used.head?, c = 'e' ∨ c = 'E' := by
  cases text with
  | nil =>
    cases h
    exact ⟨[], rfl, rfl, by simp⟩
  | cons letter text =>
    rw [readExponent_cons] at h
    split at h
    case isTrue hletter =>
      obtain ⟨found, hread, hfound⟩ := map_eq_ok.mp h
      cases hfound
      obtain ⟨htext, hdigits⟩ := readDigits_sound hread
      have hne : found.1 ≠ [] := by
        intro hnil
        rw [hnil] at hdigits
        cases hdigits
      obtain ⟨used, hused, hsign⟩ := signOf_sound hne htext
      refine ⟨letter :: used, congrArg _ hused, ?_, by simpa using hletter⟩
      rw [readExponent_cons, if_pos hletter, hsign]
      exact map_eq_ok.mpr ⟨_, hdigits, rfl⟩
    case isFalse =>
      cases h
      exact ⟨[], rfl, rfl, by simp⟩

theorem digitFree_append {text more : List Char} (htext : DigitFree text) (hmore : DigitFree more) :
    DigitFree (text ++ more) := by
  cases text with
  | nil => exact hmore
  | cons c text => exact digitFree_cons (htext c rfl)

/-- What is read as a number is read from it alone: each of its parts begins with a character that
ends the part before it. -/
theorem readNumber_sound {negative : Bool} {text rest : List Char} {tree : Tree}
    (h : readNumber negative text = .ok (tree, rest)) :
    ∃ digits, text = digits ++ rest ∧ readNumber negative digits = .ok (tree, []) := by
  obtain ⟨whole, _, fraction, _, exponent, hwhole, hfraction, hexponent, htree⟩ :=
    readNumber_ok.mp h
  obtain ⟨rfl, hdigits⟩ := readWhole_sound hwhole
  obtain ⟨point, rfl, hafter, hdot⟩ := readFraction_sound hfraction
  obtain ⟨power, rfl, hlast, hletter⟩ := readExponent_sound hexponent
  have hdotFree : DigitFree point := fun c hc => by rw [hdot c hc]; rfl
  have hletterFree : DigitFree power := by
    intro c hc
    rcases hletter c hc with rfl | rfl <;> rfl
  have hpointFree : ∀ c ∈ power.head?, c ≠ '.' := by
    intro c hc
    rcases hletter c hc with rfl | rfl <;> decide
  have hread : readWhole (whole ++ (point ++ power)) = .ok (whole, point ++ power) :=
    readWhole_append (digitFree_append hdotFree hletterFree) hdigits
  have hmore : readFraction (point ++ power) = .ok (fraction, power) :=
    readFraction_append hletterFree hpointFree hafter
  refine ⟨whole ++ (point ++ power), by simp only [List.append_assoc], ?_⟩
  exact readNumber_ok.mpr ⟨whole, _, fraction, _, exponent, hread, hmore, hlast, htree⟩

theorem numberNode_spelled {negative : Bool} {whole : List Char} {fraction : Option (List Char)}
    {exponent : Option Int} {text : List Char}
    (h : NumberSpelled (numberNode negative whole fraction exponent) text) :
    (numberNode negative whole fraction exponent).Spelled text := by
  revert h
  unfold numberNode
  dsimp only
  split_ifs <;> exact id

theorem NumberSpelled.spelled {tree : Tree} {text : List Char} (h : NumberSpelled tree text) :
    tree.Spelled text := by
  obtain ⟨negative, digits, -, hread⟩ := id h
  obtain ⟨_, _, _, _, _, -, -, -, rfl⟩ := readNumber_ok.mp hread
  exact numberNode_spelled h

/-! ## Values -/

theorem Gap.append {before after : List Char} (hbefore : Gap before) (hafter : Gap after) :
    Gap (before ++ after) :=
  List.forall_mem_append.mpr ⟨hbefore, hafter⟩

theorem leaf_some {result : Except Break (Tree × List Char)} {tree : Tree} {rest : List Char}
    (h : leaf result = (tree, some rest)) : result = .ok (tree, rest) := by
  cases result with
  | error b => cases h
  | ok pair =>
    cases h
    rfl

theorem leaf_word {word text rest : List Char} {node tree : Tree}
    (h : leaf ((readWord word text).map (node, ·)) = (tree, some rest)) :
    node = tree ∧ text = word ++ rest := by
  obtain ⟨more, hread, hmore⟩ := map_eq_ok.mp (leaf_some h)
  cases hmore
  exact ⟨rfl, readWord_sound hread⟩

theorem leaf_string {text rest : List Char} {tree : Tree}
    (h : leaf ((readString text).map fun (text, rest) =>
      (match text with | some text => .string text | none => .unpaired, rest)) =
        (tree, some rest)) :
    ∃ body, tree.Spelled ('"' :: body) ∧ text = body ++ rest := by
  obtain ⟨⟨s, more⟩, hread, hmore⟩ := map_eq_ok.mp (leaf_some h)
  obtain ⟨body, htext, hbody⟩ := readString_sound hread
  cases s with
  | none =>
    cases hmore
    exact ⟨body, ⟨body, rfl, hbody⟩, htext⟩
  | some s =>
    cases hmore
    exact ⟨body, ⟨body, rfl, hbody⟩, htext⟩

/-- Blanks before a first member are part of what stands before it. -/
theorem Members.Spelled.gap {key : Option String} {value : Tree} {more : Members}
    {gap body : List Char} (hgap : Gap gap)
    (h : (Members.member key value more).Spelled true body) :
    (Members.member key value more).Spelled true (gap ++ body) := by
  obtain ⟨lead, name, before, after, word, rest, hlead, hname, hbefore, hafter, hword, hrest,
    rfl⟩ := h
  exact ⟨gap ++ lead, name, before, after, word, rest, hgap.append hlead, hname, hbefore, hafter,
    hword, hrest, by simp⟩

/-- A comma before a first member makes it a later one. -/
theorem Members.Spelled.comma {key : Option String} {value : Tree} {more : Members}
    {gap body : List Char} (hgap : Gap gap)
    (h : (Members.member key value more).Spelled true body) :
    (Members.member key value more).Spelled false (gap ++ ',' :: body) := by
  obtain ⟨lead, name, before, after, word, rest, hlead, hname, hbefore, hafter, hword, hrest,
    rfl⟩ := h
  exact ⟨gap ++ ',' :: lead, name, before, after, word, rest, ⟨gap, lead, hgap, hlead, rfl⟩,
    hname, hbefore, hafter, hword, hrest, by simp⟩

/-- What the readers with some fuel leave out of a text spells what they give. -/
structure SoundAt (fuel : Nat) : Prop where
  value : ∀ {text rest tree}, readValue fuel text = (tree, some rest) →
    ∃ gap word, Gap gap ∧ tree.Spelled word ∧ text = gap ++ (word ++ rest)
  items : ∀ {text rest items}, readItems fuel text = (items, some rest) →
    ∃ body, items.Spelled true body ∧ text = body ++ rest
  moreItems : ∀ {text rest items}, readMoreItems fuel text = (items, some rest) →
    ∃ body, items.Spelled false body ∧ text = body ++ rest
  members : ∀ {text rest members}, readMembers fuel text = (members, some rest) →
    ∃ body, members.Spelled true body ∧ text = body ++ rest
  member : ∀ {text rest members}, readMember fuel text = (members, some rest) →
    ∃ key value more body, members = .member key value more ∧ members.Spelled true body ∧
      text = body ++ rest
  moreMembers : ∀ {text rest members}, readMoreMembers fuel text = (members, some rest) →
    ∃ body, members.Spelled false body ∧ text = body ++ rest

section

variable {fuel : Nat} {text rest : List Char}

theorem readValue_sound (ih : SoundAt fuel) {tree : Tree}
    (h : readValue (fuel + 1) text = (tree, some rest)) :
    ∃ gap word, Gap gap ∧ tree.Spelled word ∧ text = gap ++ (word ++ rest) := by
  obtain ⟨gap, hgap, htext⟩ := skipGap_split text
  -- The first character after the blanks decides the kind of value, and so which reader it was.
  suffices hword : ∃ word, tree.Spelled word ∧ skipGap text = word ++ rest by
    obtain ⟨word, hspelled, hskip⟩ := hword
    exact ⟨gap, word, hgap, hspelled, by rw [← hskip]; exact htext⟩
  rw [readValue] at h
  split at h
  case h_1 => cases h
  case h_2 more heq =>
    obtain ⟨body, hspelled, rfl⟩ := leaf_string h
    exact ⟨_, hspelled, heq⟩
  case h_3 more heq =>
    cases hitems : readItems fuel more with
    | mk items after =>
      rw [hitems] at h
      cases h
      obtain ⟨body, hbody, rfl⟩ := ih.items hitems
      exact ⟨_, ⟨body, rfl, hbody⟩, heq⟩
  case h_4 more heq =>
    cases hmembers : readMembers fuel more with
    | mk members after =>
      rw [hmembers] at h
      cases h
      obtain ⟨body, hbody, rfl⟩ := ih.members hmembers
      exact ⟨_, ⟨body, rfl, hbody⟩, heq⟩
  case h_5 more heq | h_6 more heq | h_7 more heq =>
    obtain ⟨rfl, rfl⟩ := leaf_word h
    exact ⟨_, rfl, heq⟩
  case h_8 more heq =>
    obtain ⟨digits, rfl, hread⟩ := readNumber_sound (leaf_some h)
    have hspelled : NumberSpelled tree ('-' :: digits) := ⟨true, digits, rfl, hread⟩
    exact ⟨_, hspelled.spelled, heq⟩
  case h_9 heq =>
    split at h
    case isTrue =>
      obtain ⟨digits, hdigits, hread⟩ := readNumber_sound (leaf_some h)
      have hspelled : NumberSpelled tree digits := ⟨false, digits, rfl, hread⟩
      exact ⟨_, hspelled.spelled, heq.trans hdigits⟩
    case isFalse => cases h

theorem readItems_sound (ih : SoundAt fuel) {items : Items}
    (h : readItems (fuel + 1) text = (items, some rest)) :
    ∃ body, items.Spelled true body ∧ text = body ++ rest := by
  obtain ⟨gap, hgap, htext⟩ := skipGap_split text
  rw [readItems] at h
  split at h
  case h_1 more heq =>
    cases h
    exact ⟨_, ⟨gap, hgap, rfl⟩, by rw [htext, heq, List.append_assoc]; rfl⟩
  case h_2 => cases h
  case h_3 =>
    split at h
    case h_1 => cases h
    case h_2 value after hvalue =>
      cases hmore : readMoreItems fuel after with
      | mk more last =>
        rw [hmore] at h
        cases h
        obtain ⟨lead, word, hlead, hword, hskip⟩ := ih.value hvalue
        obtain ⟨body, hbody, rfl⟩ := ih.moreItems hmore
        refine ⟨_, ⟨gap ++ lead, word, body, hgap.append hlead, hword, hbody, rfl⟩, ?_⟩
        rw [htext, hskip]
        simp only [List.append_assoc]

theorem readMoreItems_sound (ih : SoundAt fuel) {items : Items}
    (h : readMoreItems (fuel + 1) text = (items, some rest)) :
    ∃ body, items.Spelled false body ∧ text = body ++ rest := by
  obtain ⟨gap, hgap, htext⟩ := skipGap_split text
  rw [readMoreItems] at h
  split at h
  case h_1 more heq =>
    cases h
    exact ⟨_, ⟨gap, hgap, rfl⟩, by rw [htext, heq, List.append_assoc]; rfl⟩
  case h_2 => cases h
  case h_3 next heq =>
    split at h
    case h_1 => cases h
    case h_2 value after hvalue =>
      cases hmore : readMoreItems fuel after with
      | mk more last =>
        rw [hmore] at h
        cases h
        obtain ⟨lead, word, hlead, hword, hnext⟩ := ih.value hvalue
        obtain ⟨body, hbody, rfl⟩ := ih.moreItems hmore
        refine ⟨_, ⟨gap ++ ',' :: lead, word, body, ⟨gap, lead, hgap, hlead, rfl⟩, hword, hbody,
          rfl⟩, ?_⟩
        rw [htext, heq, hnext]
        simp only [List.append_assoc, List.cons_append]
  case h_4 => cases h

theorem readMembers_sound (ih : SoundAt fuel) {members : Members}
    (h : readMembers (fuel + 1) text = (members, some rest)) :
    ∃ body, members.Spelled true body ∧ text = body ++ rest := by
  obtain ⟨gap, hgap, htext⟩ := skipGap_split text
  rw [readMembers] at h
  split at h
  case h_1 more heq =>
    cases h
    exact ⟨_, ⟨gap, hgap, rfl⟩, by rw [htext, heq, List.append_assoc]; rfl⟩
  case h_2 =>
    obtain ⟨key, value, more, body, rfl, hbody, hskip⟩ := ih.member h
    exact ⟨_, hbody.gap hgap, by rw [htext, hskip, List.append_assoc]⟩

theorem readMember_sound (ih : SoundAt fuel) {members : Members}
    (h : readMember (fuel + 1) text = (members, some rest)) :
    ∃ key value more body, members = .member key value more ∧ members.Spelled true body ∧
      text = body ++ rest := by
  obtain ⟨gap, hgap, htext⟩ := skipGap_split text
  rw [readMember] at h
  split at h
  case h_1 => cases h
  case h_2 name heq =>
    split at h
    case h_1 => cases h
    case h_2 key afterName hname =>
      obtain ⟨before, hbefore, hcolon⟩ := skipGap_split afterName
      split at h
      case h_1 => cases h
      case h_2 place hplace =>
        split at h
        case h_1 => cases h
        case h_2 value afterValue hvalue =>
          cases hmore : readMoreMembers fuel afterValue with
          | mk more last =>
            rw [hmore] at h
            cases h
            obtain ⟨quoted, hquoted, hstring⟩ := readString_sound hname
            obtain ⟨after, word, hafter, hword, rfl⟩ := ih.value hvalue
            obtain ⟨body, hbody, rfl⟩ := ih.moreMembers hmore
            refine ⟨_, _, _, _, rfl, ⟨gap, '"' :: quoted, before, after, word, body, hgap,
              ⟨quoted, rfl, hstring⟩, hbefore, hafter, hword, hbody, rfl⟩, ?_⟩
            rw [htext, heq, hquoted, hcolon, hplace]
            simp only [List.append_assoc, List.cons_append]
      case h_3 => cases h
  case h_3 => cases h

theorem readMoreMembers_sound (ih : SoundAt fuel) {members : Members}
    (h : readMoreMembers (fuel + 1) text = (members, some rest)) :
    ∃ body, members.Spelled false body ∧ text = body ++ rest := by
  obtain ⟨gap, hgap, htext⟩ := skipGap_split text
  rw [readMoreMembers] at h
  split at h
  case h_1 more heq =>
    cases h
    exact ⟨_, ⟨gap, hgap, rfl⟩, by rw [htext, heq, List.append_assoc]; rfl⟩
  case h_2 => cases h
  case h_3 next heq =>
    obtain ⟨key, value, more, body, rfl, hbody, rfl⟩ := ih.member h
    exact ⟨_, hbody.comma hgap, by rw [htext, heq, List.append_assoc]; rfl⟩
  case h_4 => cases h

end

/-- Without fuel nothing is read; every reader calls the others with one unit less. -/
theorem soundAt (fuel : Nat) : SoundAt fuel := by
  induction fuel with
  | zero =>
    constructor
    all_goals
      intro _ _ _ h
      cases h
  | succ fuel ih =>
    exact ⟨readValue_sound ih, readItems_sound ih, readMoreItems_sound ih, readMembers_sound ih,
      readMember_sound ih, readMoreMembers_sound ih⟩

/-! ## Texts -/

/-- A text that is read spells a tree. -/
theorem spells_of_decodeText {α : Type} {decoder : Decoder α} {text : String} {x : α}
    (h : decodeText decoder text = .ok x) : ∃ tree, Spells text tree := by
  unfold decodeText at h
  cases hread : readTree text.toList with
  | mk tree found =>
    rw [hread] at h
    dsimp only at h
    split at h
    case h_1 => cases h
    case h_2 =>
      split at h
      case h_1 rest =>
        obtain ⟨before, word, hbefore, hword, htext⟩ := (soundAt _).value hread
        split at h
        case isTrue hempty =>
          refine ⟨tree, before, word, rest, hbefore, hword, ?_, htext⟩
          rw [List.isEmpty_iff] at hempty
          exact List.dropWhile_eq_nil_iff.mp hempty
        case isFalse => cases h
      case h_2 => cases h

/-- A typed value is read from a text if the text spells a tree of which the value is read. -/
theorem decodeText_ok_iff {α : Type} {decoder : Decoder α} {text : String} {x : α} :
    decodeText decoder text = .ok x ↔ ∃ tree, Spells text tree ∧ decoder tree = .ok x := by
  constructor
  · intro h
    obtain ⟨tree, htree⟩ := spells_of_decodeText h
    exact ⟨tree, htree, (htree.decodeText_eq decoder).symm.trans h⟩
  · rintro ⟨tree, htree, hdecode⟩
    exact (htree.decodeText_eq decoder).trans hdecode

end BenchReport.Json
