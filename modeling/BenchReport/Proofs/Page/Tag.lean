import BenchReport.Page.Tag
import BenchReport.Proofs.Text.ByteCut

/-!
Reading tags that hold names alone: a value to show, the opening of a loop and its end. What comes
after the closing braces plays no part.
-/
namespace BenchReport.Page

open Json (isGap skipGap)

/-- Characters of plain names. -/
def isLetter (c : Char) : Bool := c.isAlpha || c == '_'

/-- Words that are no names in a tag. -/
def reservedWords : List (List Char) :=
  ["as".toList, "else".toList, "null".toList, "true".toList, "false".toList]

/-- A name of letters that does not begin with a reserved word. -/
structure PlainName (name : List Char) : Prop where
  nonempty : name ≠ []
  letters : name.all isLetter = true
  free : ∀ word ∈ reservedWords, ¬word <+: name

instance (name : List Char) : Decidable (PlainName name) :=
  decidable_of_iff
    (name ≠ [] ∧ name.all isLetter = true ∧ ∀ word ∈ reservedWords, ¬word <+: name)
    ⟨fun h => ⟨h.1, h.2.1, h.2.2⟩, fun h => ⟨h.nonempty, h.letters, h.free⟩⟩

variable {name word rest : List Char} {c d stop : Char}

theorem isNameChar_of_isLetter (h : isLetter c = true) : isNameChar c = true := by
  rw [isLetter, Bool.or_eq_true, beq_iff_eq] at h
  rcases h with h | rfl
  · simp [isNameChar, Char.isAlphanum, h]
  · decide

theorem isDigit_of_isLetter (h : isLetter c = true) : c.isDigit = false := by
  rw [Bool.eq_false_iff, ne_eq, Text.isDigit_iff]
  rw [isLetter, Bool.or_eq_true, beq_iff_eq] at h
  rcases h with h | rfl
  · rw [Text.isAlpha_iff] at h
    omega
  · decide

theorem ne_of_isLetter (hc : isLetter c = true) (hd : isLetter d = false) : c ≠ d := by
  rintro rfl
  exact Bool.false_ne_true (hd.symm.trans hc)

theorem dropWord?_eq_some_iff {text : List Char} :
    dropWord? word text = some rest ↔ text = word ++ rest := by
  induction word generalizing text with
  | nil => simp [dropWord?]
  | cons c word ih =>
    cases text with
    | nil => simp [dropWord?]
    | cons d text =>
      by_cases hsame : c = d
      · simp [dropWord?, hsame, ih]
      · simp [dropWord?, hsame, Ne.symm hsame]

theorem dropWord?_of_ne (h : c ≠ d) (word text : List Char) :
    dropWord? (c :: word) (d :: text) = none := by
  rw [dropWord?, if_neg h]

/-- Behind a name stands a blank or a brace. -/
def Ends (stop : Char) : Prop := stop = ' ' ∨ stop = '\x7d'

theorem Ends.isLetter_eq_false (h : Ends stop) : isLetter stop = false := by
  rcases h with rfl | rfl <;> decide

theorem Ends.not_isNameChar (h : Ends stop) : isNameChar stop = false := by
  rcases h with rfl | rfl <;> decide

/-- A word of letters in front of a text begins the name at the start of the text. -/
theorem prefix_name (hword : word.all isLetter = true) (hstop : isLetter stop = false)
    (h : word <+: name ++ stop :: rest) : word <+: name := by
  rcases Nat.lt_or_ge name.length word.length with hlong | hshort
  · have hbegin : name ++ [stop] <+: name ++ stop :: rest := by simp
    have hlength : (name ++ [stop]).length ≤ word.length := by
      rw [List.length_append, List.length_singleton]
      exact hlong
    have hinside : name ++ [stop] <+: word := List.prefix_of_prefix_length_le hbegin h hlength
    have hletter := List.all_eq_true.mp hword stop (hinside.subset (by simp))
    exact absurd (hstop.symm.trans hletter) Bool.false_ne_true
  · exact List.prefix_of_prefix_length_le h (List.prefix_append _ _) hshort

theorem PlainName.dropWord?_reserved (h : PlainName name) (hstop : Ends stop)
    (hword : word ∈ reservedWords) (rest : List Char) :
    dropWord? word (name ++ stop :: rest) = none := by
  rw [Option.eq_none_iff_forall_ne_some]
  intro after hafter
  have hletters : word.all isLetter = true := by
    have hall : reservedWords.all (fun word => word.all isLetter) = true := by decide
    exact List.all_eq_true.mp hall word hword
  have hbegin : word <+: name ++ stop :: rest := ⟨after, (dropWord?_eq_some_iff.mp hafter).symm⟩
  exact h.free word hword (prefix_name hletters hstop.isLetter_eq_false hbegin)

theorem PlainName.exists_cons (h : PlainName name) :
    ∃ c more, name = c :: more ∧ isLetter c = true := by
  obtain ⟨c, more, rfl⟩ := List.exists_cons_of_ne_nil h.nonempty
  exact ⟨c, more, rfl, List.all_eq_true.mp h.letters c List.mem_cons_self⟩

/-- A text that begins with a plain name begins with a letter. -/
theorem PlainName.ne_cons (h : PlainName name) (hd : isLetter d = false) (text : List Char) :
    ∀ after, name ++ text = d :: after → False := by
  intro after hafter
  obtain ⟨c, more, rfl, hc⟩ := h.exists_cons
  exact ne_of_isLetter hc hd (List.cons.inj hafter).1

theorem PlainName.dropWord?_of_isLetter_eq_false (h : PlainName name) (hd : isLetter d = false)
    (word text : List Char) : dropWord? (d :: word) (name ++ text) = none := by
  obtain ⟨c, more, rfl, hc⟩ := h.exists_cons
  exact dropWord?_of_ne (ne_of_isLetter hc hd).symm word _

theorem PlainName.skipGap_append (h : PlainName name) (text : List Char) :
    skipGap (name ++ text) = name ++ text := by
  obtain ⟨c, more, rfl, hc⟩ := h.exists_cons
  have hgap : isGap c = false := by
    simp [isGap, ne_of_isLetter (d := ' ') hc rfl, ne_of_isLetter (d := '\n') hc rfl,
      ne_of_isLetter (d := '\t') hc rfl, ne_of_isLetter (d := '\r') hc rfl]
  rw [skipGap, List.cons_append, List.dropWhile_cons_of_neg (by simp [hgap])]

theorem PlainName.readName? (h : PlainName name) (hstop : Ends stop) :
    readName? (name ++ stop :: rest) = some (String.ofList name, stop :: rest) := by
  have hchars : ∀ c ∈ name, isNameChar c = true := fun c hc =>
    isNameChar_of_isLetter (List.all_eq_true.mp h.letters c hc)
  have hend : isNameChar stop = false := hstop.not_isNameChar
  have htake : (name ++ stop :: rest).takeWhile isNameChar = name := by
    rw [List.takeWhile_append_of_pos hchars, List.takeWhile_cons_of_neg (by simp [hend]),
      List.append_nil]
  have hdrop : (name ++ stop :: rest).dropWhile isNameChar = stop :: rest := by
    rw [List.dropWhile_append_of_pos hchars, List.dropWhile_cons_of_neg (by simp [hend])]
  rw [Page.readName?, htake, hdrop]
  simp [h.nonempty]

/-! ## Paths -/

namespace Path

theorem isSeparator_of_isLetter (h : isLetter c = true) : isSeparator c = false := by
  simp [isSeparator, ne_of_isLetter (d := '.') h rfl, ne_of_isLetter (d := '/') h rfl]

theorem isSeparator_of_ends (h : Ends stop) : isSeparator stop = false := by
  rcases h with rfl | rfl <;> decide

theorem dropSeparator?_ends (h : Ends stop) : dropSeparator? (stop :: rest) = none := by
  rw [dropSeparator?, isSeparator_of_ends h]
  rfl

/-- A name is not taken for a word and a separator, even if it begins with the word. -/
theorem dropSeparated_name (h : PlainName name) (hstop : Ends stop)
    (hword : word.all isLetter = true) : dropSeparated word (name ++ stop :: rest) = none := by
  rw [dropSeparated]
  cases hdrop : dropWord? word (name ++ stop :: rest) with
  | none => rfl
  | some after =>
    have htext := dropWord?_eq_some_iff.mp hdrop
    obtain ⟨more, hmore⟩ := prefix_name hword hstop.isLetter_eq_false ⟨after, htext.symm⟩
    rw [← hmore, List.append_assoc] at htext
    rw [← List.append_cancel_left htext]
    cases more with
    | nil => exact dropSeparator?_ends hstop
    | cons c more =>
      have hc : isLetter c = true := List.all_eq_true.mp h.letters c (by rw [← hmore]; simp)
      simp only [List.cons_append, dropSeparator?, isSeparator_of_isLetter hc]
      rfl

theorem dropSeparated_of_isLetter_eq_false (h : PlainName name) (hd : isLetter d = false)
    (word text : List Char) : dropSeparated (d :: word) (name ++ text) = none := by
  rw [dropSeparated, h.dropWord?_of_isLetter_eq_false hd]

theorem dropCurrent_name (h : PlainName name) (hstop : Ends stop) :
    dropCurrent (name ++ stop :: rest) = name ++ stop :: rest := by
  have hthis : "this".toList.all isLetter = true := by decide
  rw [dropCurrent, dropSeparated_name h hstop hthis, h.dropWord?_of_isLetter_eq_false (by decide)]
  rfl

theorem readLevels_name (h : PlainName name) (fuel : Nat) (text : List Char) :
    readLevels fuel (name ++ text) = (0, name ++ text) := by
  cases fuel with
  | zero => rfl
  | succ fuel =>
    rw [readLevels, dropSeparated_of_isLetter_eq_false h (by decide)]

theorem readSteps_ends (h : Ends stop) (fuel : Nat) (rest : List Char) :
    readSteps fuel (stop :: rest) = ([], stop :: rest) := by
  cases fuel with
  | zero => rfl
  | succ fuel =>
    rw [readSteps, dropSeparator?_ends h]
    rfl

theorem readStep?_name (h : PlainName name) (hstop : Ends stop) (rest : List Char) :
    readStep? (name ++ stop :: rest) = some (String.ofList name, stop :: rest) := by
  unfold readStep?
  split
  case h_1 heq => exact (h.ne_cons rfl _ _ heq).elim
  case h_2 => exact h.readName? hstop

/-- The path of a plain name leads to a member of the current value, or to the value itself. -/
def ofName (name : List Char) : Path := .relative 0 ([String.ofList name].filter (· != "this"))

theorem read?_name (h : PlainName name) (hstop : Ends stop) (rest : List Char) :
    read? (name ++ stop :: rest) = some (ofName name, stop :: rest) := by
  have hroot : dropSeparated "@root".toList (name ++ stop :: rest) = none :=
    dropSeparated_of_isLetter_eq_false h (by decide) _ _
  have hlevels := readLevels_name h (name ++ stop :: rest).length (stop :: rest)
  have hstep := readStep?_name h hstop rest
  have hsteps := readSteps_ends hstop (stop :: rest).length rest
  have hloop := h.ne_cons (d := '@') rfl (stop :: rest)
  unfold read?
  rw [dropCurrent_name h hstop]
  simp only [hroot, hlevels, hstep, hsteps]
  rfl

end Path

/-! ## Parameters -/

/-- The value that a plain name stands for in a tag. -/
def Param.ofName (name : List Char) : Param := .path (String.ofList name) (Path.ofName name)

theorem word?_name (h : PlainName name) (hd : isLetter d = false) (word text : List Char) :
    word? (d :: word) (name ++ text) = none := by
  rw [word?, h.skipGap_append, h.dropWord?_of_isLetter_eq_false hd]

theorem isReserved_name (h : PlainName name) (hstop : Ends stop) :
    isReserved (name ++ stop :: rest) = false := by
  have hdrop (word : List Char) (hword : word ∈ reservedWords) :=
    h.dropWord?_reserved hstop hword rest
  simp [isReserved, hdrop ['a', 's'] (by decide),
    hdrop ['e', 'l', 's', 'e'] (by decide)]

theorem literalLength?_name (h : PlainName name) (hstop : Ends stop) :
    literalLength? (name ++ stop :: rest) = none := by
  have hdrop (word : List Char) (hword : word ∈ reservedWords) :=
    h.dropWord?_reserved hstop hword rest
  have hminus := h.dropWord?_of_isLetter_eq_false (d := '-') rfl [] (stop :: rest)
  have hnumber : numberLength? (name ++ stop :: rest) = none := by
    have hdigit : ((name ++ stop :: rest).takeWhile Char.isDigit).isEmpty = true := by
      obtain ⟨c, more, rfl, hc⟩ := h.exists_cons
      simp [isDigit_of_isLetter hc]
    simp [numberLength?, hminus, hdigit]
  unfold literalLength?
  split
  case h_1 heq => exact (h.ne_cons rfl _ _ heq).elim
  case h_2 heq => exact (h.ne_cons rfl _ _ heq).elim
  case h_3 =>
    simp [hnumber, hdrop ['n', 'u', 'l', 'l'] (by decide),
        hdrop ['t', 'r', 'u', 'e'] (by decide),
        hdrop ['f', 'a', 'l', 's', 'e'] (by decide)]

theorem readParam?_name (h : PlainName name) (fuel : Nat) :
    readParam? (fuel + 1) (' ' :: (name ++ '\x7d' :: rest)) =
      some (.ofName name, '\x7d' :: rest) := by
  have hskip : skipGap (' ' :: (name ++ '\x7d' :: rest)) = name ++ '\x7d' :: rest :=
    h.skipGap_append _
  have hpath := Path.read?_name h (.inr rfl) rest
  have hcall := h.ne_cons (d := '(') rfl ('\x7d' :: rest)
  unfold readParam?
  simp only [hskip, isReserved_name h (.inr rfl), literalLength?_name h (.inr rfl), hpath]
  simp [Param.ofName]

theorem readParams_end (fuel : Nat) (params : List Param) (options : List (String × Param))
    (rest : List Char) :
    readParams (fuel + 2) params options ('\x7d' :: rest) =
      (params.reverse, options.reverse, '\x7d' :: rest) := rfl

theorem readParams_name (h : PlainName name) (fuel : Nat) (rest : List Char) :
    readParams (fuel + 4) [] [] (' ' :: (name ++ '\x7d' :: rest)) =
      ([.ofName name], [], '\x7d' :: rest) := by
  have hskip : skipGap (' ' :: (name ++ '\x7d' :: rest)) = name ++ '\x7d' :: rest :=
    h.skipGap_append _
  have hoption : readOption? (fuel + 3) (' ' :: (name ++ '\x7d' :: rest)) = none := by
    simp only [readOption?, hskip, h.readName? (.inr rfl)]
    rfl
  have hparam : readParam? (fuel + 3) (' ' :: (name ++ '\x7d' :: rest)) = _ :=
    readParam?_name h (fuel + 2)
  have hend := readParams_end (fuel + 1) [.ofName name] [] rest
  simp only [readParams, hoption, hparam]
  exact hend

/-! ## Tags -/

section

variable {opening text inner after : List Char} {content : Mark} {read? : List Char → Read Mark}

/-- A mark right before the closing braces makes a tag that drops no blanks. -/
theorem readMarked?_closed (htilde : word? ['~'] text = none)
    (hopening : word? opening text = some inner)
    (hread : read? inner = some (content, '\x7d' :: '\x7d' :: after)) :
    readMarked? opening read? closingBraces text = some (⟨content, false, false⟩, after) := by
  simp only [readMarked?, mark, htilde, hopening, Option.bind_eq_bind, Option.bind_some, hread]
  rfl

theorem readMarked?_unopened (htilde : word? ['~'] text = none)
    (hopening : word? opening text = none) (closing : List Char) :
    readMarked? opening read? closing text = none := by
  simp only [readMarked?, mark, htilde, hopening, Option.bind_eq_bind, Option.bind_none]

end

theorem readHead?_name {helper : List Char} (hhelper : PlainName helper) (h : PlainName name) :
    readHead? (helper ++ ' ' :: (name ++ '\x7d' :: rest)) =
      some (⟨String.ofList helper, [.ofName name], [], []⟩, '\x7d' :: rest) := by
  have hparams := readParams_name h (4 * (' ' :: (name ++ '\x7d' :: rest)).length) rest
  simp only [readHead?, hhelper.skipGap_append, hhelper.readName? (.inl rfl), Option.map_some,
    paramFuel, hparams]
  rfl

theorem readExpression?_name (h : PlainName name) :
    readExpression? (name ++ '\x7d' :: rest) = some (.value (.ofName name), '\x7d' :: rest) := by
  have hcall := h.ne_cons (d := '(') rfl ('\x7d' :: rest)
  have hparams := readParams_end (4 * ('\x7d' :: rest).length + 2) [] [] rest
  simp only [readExpression?, h.skipGap_append, h.readName? (.inr rfl), paramFuel, hparams,
    readValue?, Path.read?_name h (.inr rfl)]
  simp [Param.ofName]

/-- A name between braces shows its value. -/
theorem readTag?_shown (h : PlainName name) (after : List Char) :
    readTag? (name ++ '\x7d' :: '\x7d' :: after) =
      some (⟨.value (.ofName name), false, false⟩, after) := by
  have htilde := word?_name h (d := '~') rfl [] ('\x7d' :: '\x7d' :: after)
  have hcaret := word?_name h (d := '^') rfl [] ('\x7d' :: '\x7d' :: after)
  have helse : word? ['e', 'l', 's', 'e'] (name ++ '\x7d' :: '\x7d' :: after) = none := by
    rw [word?, h.skipGap_append]
    exact h.dropWord?_reserved (.inr rfl) (by decide) _
  have hcomment : readComment? (name ++ '\x7d' :: '\x7d' :: after) = none := by
    simp [readComment?, h.dropWord?_of_isLetter_eq_false (d := '!') rfl]
  have hbranch : readBranch? (name ++ '\x7d' :: '\x7d' :: after) = none := by
    simp [readBranch?, readMarked?_unopened htilde hcaret, readMarked?_unopened htilde helse]
  have hvalue : readMarked? [] readExpression? closingBraces (name ++ '\x7d' :: '\x7d' :: after) =
      some (⟨.value (.ofName name), false, false⟩, after) :=
    readMarked?_closed htilde (congrArg some (h.skipGap_append _)) (readExpression?_name h)
  simp only [readTag?, hcomment, List.findSome?_cons, hbranch, hvalue]

/-- A block whose helper takes the value of a name. -/
def Head.ofNames (helper name : List Char) : Head :=
  ⟨String.ofList helper, [.ofName name], [], []⟩

def readOpening (text : List Char) : Read Mark :=
  (readHead? text).map fun (head, rest) => (.opening head, rest)

def readClosing (text : List Char) : Read Mark :=
  (readName? (skipGap text)).map fun (name, rest) => (.closing name, rest)

/-- The signs of blocks let only the last readings of a tag go on, whatever comes after them. -/
theorem readTag?_sign {sign : Char} (h : sign = '#' ∨ sign = '/') (text : List Char) :
    readTag? (sign :: text) =
      [readMarked? ['#'] readOpening closingBraces, readMarked? ['/'] readClosing closingBraces,
        readMarked? ['>'] readInclusion? closingBraces].findSome? fun read? =>
          read? (sign :: text) := by
  rcases h with rfl | rfl <;> rfl

/-- A helper and a name after the sign of an opening begin a block. -/
theorem readTag?_opening {helper : List Char} (hhelper : PlainName helper) (h : PlainName name)
    (after : List Char) :
    readTag? ('#' :: (helper ++ ' ' :: (name ++ '\x7d' :: '\x7d' :: after))) =
      some (⟨.opening (.ofNames helper name), false, false⟩, after) := by
  have hread : readOpening (helper ++ ' ' :: (name ++ '\x7d' :: '\x7d' :: after)) =
      some (.opening (.ofNames helper name), '\x7d' :: '\x7d' :: after) := by
    rw [readOpening, readHead?_name hhelper h]
    rfl
  rw [readTag?_sign (.inl rfl), List.findSome?_cons, readMarked?_closed rfl rfl hread]

/-- A helper after the sign of an end closes a block. -/
theorem readTag?_closing {helper : List Char} (hhelper : PlainName helper) (after : List Char) :
    readTag? ('/' :: (helper ++ '\x7d' :: '\x7d' :: after)) =
      some (⟨.closing (String.ofList helper), false, false⟩, after) := by
  have hread : readClosing (helper ++ '\x7d' :: '\x7d' :: after) =
      some (.closing (String.ofList helper), '\x7d' :: '\x7d' :: after) := by
    rw [readClosing, hhelper.skipGap_append, hhelper.readName? (.inr rfl)]
    rfl
  rw [readTag?_sign (.inr rfl), List.findSome?_cons, readMarked?_unopened rfl rfl,
    List.findSome?_cons, readMarked?_closed rfl rfl hread]

end BenchReport.Page
