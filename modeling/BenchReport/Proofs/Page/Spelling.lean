import BenchReport.Page.Layout
import BenchReport.Proofs.Page.Tag
import Mathlib.Data.List.Chain
import Mathlib.Data.List.TakeWhile

/-!
Sources of pages written part by part, from words and tags of plain names, and the pieces that they
are read as.
-/
namespace BenchReport.Page

open Json (isGap)

/-- A tag of plain names. -/
inductive Label
  | shown (name : String)
  | opening (helper name : String)
  | closing (helper : String)

namespace Label

def PlainNames : Label → Prop
  | shown name => PlainName name.toList
  | opening helper name => PlainName helper.toList ∧ PlainName name.toList
  | closing helper => PlainName helper.toList

instance : DecidablePred PlainNames
  | shown name => inferInstanceAs (Decidable (PlainName name.toList))
  | opening helper name =>
    inferInstanceAs (Decidable (PlainName helper.toList ∧ PlainName name.toList))
  | closing helper => inferInstanceAs (Decidable (PlainName helper.toList))

/-- The source of a tag after its two opening braces. -/
def inner : Label → List Char
  | shown name => name.toList ++ closingBraces
  | opening helper name => '#' :: (helper.toList ++ ' ' :: (name.toList ++ closingBraces))
  | closing helper => '/' :: (helper.toList ++ closingBraces)

def mark : Label → Mark
  | shown name => .value (.ofName name.toList)
  | opening helper name => .opening (.ofNames helper.toList name.toList)
  | closing helper => .closing helper

theorem readTag?_inner {label : Label} (h : label.PlainNames) (after : List Char) :
    readTag? (label.inner ++ after) = some (⟨label.mark, false, false⟩, after) := by
  cases label with
  | shown name =>
    rw [inner, List.append_assoc]
    exact readTag?_shown h after
  | opening helper name =>
    simpa [inner, mark, closingBraces] using readTag?_opening h.1 h.2 after
  | closing helper =>
    simpa [inner, mark, closingBraces] using readTag?_closing h after

end Label

/-- Words, or a tag. -/
inductive Part
  | words (text : String)
  | tag (label : Label)

namespace Part

def named (name : String) : Part := tag (.shown name)

/-- The parts of a loop over a list, around those of its body. -/
def loop (name : String) (body : List Part) : List Part :=
  tag (.opening "each" name) :: (body ++ [tag (.closing "each")])

def source : Part → List Char
  | words text => text.toList
  | tag label => '\x7b' :: '\x7b' :: label.inner

/-- Words hold no brace and no backslash, so that none of their characters has another sense. -/
def isPlain (c : Char) : Bool := c != '\x7b' && c != '\\'

def isTag : Part → Bool
  | words _ => false
  | tag _ => true

def WellFormed : Part → Prop
  | words text => text.toList ≠ [] ∧ text.toList.all isPlain = true
  | tag label => label.PlainNames

instance : DecidablePred WellFormed
  | words text => inferInstanceAs (Decidable (text.toList ≠ [] ∧ text.toList.all isPlain = true))
  | tag label => inferInstanceAs (Decidable label.PlainNames)

/-- The piece that a part is read as, given the source before it backwards and the source after
it. -/
def piece (before after : List Char) : Part → Piece
  | words text => if text.toList.all isGap then .blank text.toList else .text text.toList
  | tag label => .tag ⟨label.mark, false, false⟩ (isLineStart before && isLineRest after)

end Part

def spell (parts : List Part) : List Char := parts.flatMap Part.source

/-- The pieces that parts are read as, given the source before them backwards. -/
def pieces (before : List Char) : List Part → List Piece
  | [] => []
  | part :: rest => part.piece before (spell rest) :: pieces (part.source.reverse ++ before) rest

/-- Every part is well formed, and words do not stand next to words. -/
structure Spellable (parts : List Part) : Prop where
  wellFormed : ∀ part ∈ parts, part.WellFormed
  separate : parts.IsChain fun part next => part.isTag || next.isTag

instance (parts : List Part) : Decidable (Spellable parts) :=
  decidable_of_iff
    ((∀ part ∈ parts, part.WellFormed) ∧
      parts.IsChain fun part next => part.isTag || next.isTag)
    ⟨fun h => ⟨h.1, h.2⟩, fun h => ⟨h.wellFormed, h.separate⟩⟩

namespace Spellable

variable {part : Part} {parts : List Part}

theorem head (h : Spellable (part :: parts)) : part.WellFormed :=
  h.wellFormed part List.mem_cons_self

theorem tail (h : Spellable (part :: parts)) : Spellable parts :=
  ⟨fun part hpart => h.wellFormed part (List.mem_cons_of_mem _ hpart), h.separate.tail⟩

end Spellable

theorem length_le_length_spell {parts : List Part} (h : Spellable parts) :
    parts.length ≤ (spell parts).length := by
  induction parts with
  | nil => simp
  | cons part rest ih =>
    have hpart : 0 < part.source.length := by
      cases part with
      | words text => exact List.length_pos_iff.mpr h.head.1
      | tag label => simp [Part.source]
    have hrest := ih h.tail
    simp only [spell, List.flatMap_cons, List.length_append, List.length_cons] at hrest ⊢
    omega

/-! ## Words before a tag or the end -/

/-- The source ends, or a tag begins. -/
def AtTag (source : List Char) : Prop := source = [] ∨ ∃ rest, source = '\x7b' :: '\x7b' :: rest

/-- Behind words comes a tag or nothing. -/
theorem Spellable.atTag {text : String} {parts : List Part}
    (h : Spellable (.words text :: parts)) : AtTag (spell parts) := by
  cases parts with
  | nil => exact .inl rfl
  | cons next rest =>
    cases next with
    | words other => exact absurd h.separate.rel (by simp [Part.isTag])
    | tag label => exact .inr ⟨label.inner ++ spell rest, rfl⟩

section

variable {text source : List Char}

theorem readText_words (hplain : text.all Part.isPlain = true) (hsource : AtTag source) :
    readText 0 (text ++ source) = (text, source) := by
  induction text with
  | nil => rcases hsource with rfl | ⟨rest, rfl⟩ <;> rfl
  | cons c text ih =>
    simp only [List.all_cons, Bool.and_eq_true, Part.isPlain, bne_iff_ne] at hplain
    rw [List.cons_append, readText, ih hplain.2]
    · rfl
    · exact hplain.1.2
    · intro _ hc
      exact absurd hc hplain.1.1

theorem AtTag.takeWhile_isGap (h : AtTag source) : source.takeWhile isGap = [] := by
  rcases h with rfl | ⟨rest, rfl⟩ <;> rfl

theorem AtTag.dropWhile_isGap (h : AtTag source) : source.dropWhile isGap = source := by
  rcases h with rfl | ⟨rest, rfl⟩ <;> rfl

/-- Blanks are a piece of their own, and what comes after them is read as if they were not there. -/
theorem readPieces?_blank (hne : text ≠ []) (hgap : text.all isGap = true) (hsource : AtTag source)
    (fuel : Nat) (before : List Char) :
    readPieces? (fuel + 1) before (text ++ source) =
      (readPieces? (fuel + 1) (text.reverse ++ before) source).map (.blank text :: ·) := by
  have hall := List.all_eq_true.mp hgap
  have htake : (text ++ source).takeWhile isGap = text := by
    rw [List.takeWhile_append_of_pos hall, hsource.takeWhile_isGap, List.append_nil]
  have hdrop : (text ++ source).dropWhile isGap = source := by
    rw [List.dropWhile_append_of_pos hall, hsource.dropWhile_isGap]
  rw [readPieces?, readPieces?, htake, hdrop, hsource.takeWhile_isGap, hsource.dropWhile_isGap]
  rcases hsource with rfl | ⟨rest, rfl⟩
  · simp [hne]
  · cases htag : readTag? rest with
    | none => simp [htag]
    | some read => simp [htag, hne, Function.comp_def]

theorem exists_blank_cons (h : text.all isGap = false) :
    ∃ gap c more, text = gap ++ c :: more ∧ (∀ d ∈ gap, isGap d = true) ∧ isGap c = false := by
  have hrest : text.dropWhile isGap ≠ [] := by
    rw [ne_eq, List.dropWhile_eq_nil_iff, ← List.all_eq_true, h]
    exact Bool.false_ne_true
  obtain ⟨c, more, hcons⟩ := List.exists_cons_of_ne_nil hrest
  refine ⟨text.takeWhile isGap, c, more, ?_, fun d hd => List.mem_takeWhile_imp hd, ?_⟩
  · rw [← hcons, List.takeWhile_append_dropWhile]
  · have hhead := List.head_dropWhile_not isGap hrest
    simpa [hcons] using hhead

/-- Words that are not all blank are one piece, with the blanks around them. -/
theorem readPieces?_text (hgap : text.all isGap = false) (hplain : text.all Part.isPlain = true)
    (hsource : AtTag source) (fuel : Nat) (before : List Char) :
    readPieces? (fuel + 1) before (text ++ source) =
      (readPieces? fuel (text.reverse ++ before) source).map (.text text :: ·) := by
  obtain ⟨gap, c, more, rfl, hblank, hc⟩ := exists_blank_cons hgap
  have htake : (gap ++ c :: more ++ source).takeWhile isGap = gap := by
    simp [List.takeWhile_append_of_pos hblank, hc]
  have hdrop : (gap ++ c :: more ++ source).dropWhile isGap = c :: more ++ source := by
    simp [List.dropWhile_append_of_pos hblank, hc]
  rw [List.all_append, Bool.and_eq_true] at hplain
  have hread : readText 0 (c :: (more ++ source)) = (c :: more, source) :=
    readText_words hplain.2 hsource
  have hbrace : c ≠ '\x7b' := by
    rintro rfl
    simp [Part.isPlain] at hplain
  have hspelled : more.length + source.length + 1 - source.length = more.length + 1 := by omega
  rw [readPieces?, htake, hdrop]
  split
  case h_1 heq => simp at heq
  case h_2 heq => exact absurd (List.cons.inj heq).1 hbrace
  case h_3 => simp [hread, hspelled]

end

/-! ## The pieces of parts -/

theorem readPieces?_tag {label : Label} (h : label.PlainNames) (fuel : Nat)
    (before after : List Char) :
    readPieces? (fuel + 1) before ((Part.tag label).source ++ after) =
      (readPieces? fuel ((Part.tag label).source.reverse ++ before) after).map
        ((Part.tag label).piece before after :: ·) := by
  have htake : ('\x7b' :: '\x7b' :: (label.inner ++ after)).takeWhile isGap = [] := rfl
  have hdrop : ('\x7b' :: '\x7b' :: (label.inner ++ after)).dropWhile isGap =
      '\x7b' :: '\x7b' :: (label.inner ++ after) := rfl
  rw [Part.source, List.cons_append, List.cons_append, readPieces?, htake, hdrop]
  simp [label.readTag?_inner h, Part.piece]

theorem readPieces?_spell {parts : List Part} (h : Spellable parts) {fuel : Nat}
    (hfuel : parts.length < fuel) (before : List Char) :
    readPieces? fuel before (spell parts) = some (pieces before parts) := by
  induction parts generalizing fuel before with
  | nil =>
    cases fuel with
    | zero => omega
    | succ fuel => rfl
  | cons part rest ih =>
    obtain ⟨fuel, rfl⟩ := Nat.exists_eq_succ_of_ne_zero (Nat.ne_zero_of_lt hfuel)
    rw [List.length_cons] at hfuel
    have hsplit : spell (part :: rest) = part.source ++ spell rest := List.flatMap_cons
    rw [hsplit, pieces]
    cases part with
    | words text =>
      cases hgap : text.toList.all isGap with
      | true =>
        rw [Part.source, readPieces?_blank h.head.1 hgap h.atTag, ih h.tail (by omega)]
        simp [Part.piece, hgap]
      | false =>
        rw [Part.source, readPieces?_text hgap h.head.2 h.atTag, ih h.tail (by omega)]
        simp [Part.piece, hgap]
    | tag label =>
      rw [readPieces?_tag h.head, ih h.tail (by omega), Option.map_some]

/-- A source that parts spell is the template that their pieces make. -/
theorem parse?_spell {parts : List Part} (h : Spellable parts) {source : String}
    (hsource : source.toList = spell parts) {draft : Draft}
    (hdraft : (pieces [] parts).foldlM Draft.add? Draft.empty = some draft)
    (hclosed : draft.blocks = []) : parse? source = some draft.template := by
  have hfuel : parts.length < source.toList.length + 1 := by
    rw [hsource]
    exact Nat.lt_succ_of_le (length_le_length_spell h)
  have hread := readPieces?_spell h hfuel []
  rw [← hsource] at hread
  simp [parse?, hread, hdraft, hclosed]

end BenchReport.Page
