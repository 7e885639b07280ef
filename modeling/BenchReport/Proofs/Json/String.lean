import BenchReport.Json.Printer
import BenchReport.Json.Reader
import Mathlib.Tactic.IntervalCases

/-! Strings in JSON: every text is read back from its escaped form. -/
namespace BenchReport.Json

theorem pieces_plain {c : Char} (hquote : c ≠ '"') (hescape : c ≠ '\\') (hcontrol : ¬ c.toNat < 32)
    (rest : List Char) :
    pieces (c :: rest) = (.char c :: (pieces rest).1, (pieces rest).2) := by
  simp [pieces, hescape, hcontrol]

theorem pieces_unit {a b c d : Char} {n : Nat} (h : hexUnit? a b c d = some n)
    (rest : List Char) :
    pieces ('\\' :: 'u' :: a :: b :: c :: d :: rest) =
      (.unit n :: (pieces rest).1, (pieces rest).2) := by
  simp [pieces, h]

theorem pieces_short {c e : Char} (hunit : c ≠ 'u') (h : shortEscape? c = some e)
    (rest : List Char) :
    pieces ('\\' :: c :: rest) = (.char e :: (pieces rest).1, (pieces rest).2) := by
  simp [pieces, hunit, h]

/-- What follows the closing quote does not matter. -/
theorem pieces_append {text rest more : List Char} {parts : List Piece}
    (h : pieces text = (parts, .quote more)) :
    pieces (text ++ rest) = (parts, .quote (more ++ rest)) := by
  fun_induction pieces text generalizing parts with
  | case1 => cases h
  | case2 =>
    cases h
    simp [pieces]
  | case3 => cases h
  | case4 a b c d text n hunit found closing hfound ih =>
    cases h
    simp only [List.cons_append]
    rw [pieces_unit hunit, ih hfound]
  | case5 => cases h
  | case6 => cases h
  | case7 c text _ hu e hshort found closing hfound ih =>
    cases h
    simp only [List.cons_append]
    rw [pieces_short hu hshort, ih hfound]
  | case8 => cases h
  | case9 => cases h
  | case10 c text hquote hend _ _ hescape hcontrol found closing hfound ih =>
    cases h
    have hplain : c ≠ '\\' := by
      intro hc
      cases text with
      | nil => exact hend hc rfl
      | cons d text => exact hescape d text hc rfl
    rw [List.cons_append, pieces_plain hquote hplain hcontrol, ih hfound]

theorem readString_append {text rest more : List Char} {s : Option String}
    (h : readString text = .ok (s, more)) :
    readString (text ++ rest) = .ok (s, more ++ rest) := by
  unfold readString at h ⊢
  split at h
  case h_1 parts found hfound =>
    cases h
    rw [pieces_append hfound]
  case h_2 => cases h

/-- A part that stands for a character: the character itself, or its only unit. -/
def Piece.StandsFor (part : Piece) (c : Char) : Prop :=
  part = .char c ∨ part = .unit c.toNat ∧ c.toNat < 0xD800

theorem hexUnit?_control {n : Nat} (h : n < 16) (high : Nat) (hhigh : high < 2) :
    hexUnit? '0' '0' (Nat.digitChar high) (Nat.digitChar n) = some (16 * high + n) := by
  interval_cases high <;> interval_cases n <;> decide

theorem escapedChar_low {c : Char} (hquote : c ≠ '"') (hescape : c ≠ '\\') (hback : c ≠ '\x08')
    (htab : c ≠ '\t') (hline : c ≠ '\n') (hfeed : c ≠ '\x0c') (hreturn : c ≠ '\r') :
    escapedChar c =
      if c.toNat < 16 then ['\\', 'u', '0', '0', '0', Nat.digitChar c.toNat]
      else if c.toNat < 32 then ['\\', 'u', '0', '0', '1', Nat.digitChar (c.toNat - 16)]
      else [c] := by
  rw [escapedChar, if_neg hquote, if_neg hescape, if_neg hback, if_neg htab, if_neg hline,
    if_neg hfeed, if_neg hreturn]

/-- A character is escaped by a letter, or by its number, or not at all. -/
theorem escapedChar_cases (c : Char) :
    (∃ e, e ≠ 'u' ∧ shortEscape? e = some c ∧ escapedChar c = ['\\', e]) ∨
    (∃ a b, hexUnit? '0' '0' a b = some c.toNat ∧ c.toNat < 32 ∧
      escapedChar c = ['\\', 'u', '0', '0', a, b]) ∨
    (c ≠ '"' ∧ c ≠ '\\' ∧ ¬c.toNat < 32 ∧ escapedChar c = [c]) := by
  by_cases hquote : c = '"'
  · exact .inl ⟨'"', by decide, by rw [hquote]; rfl, by rw [hquote]; rfl⟩
  by_cases hescape : c = '\\'
  · exact .inl ⟨'\\', by decide, by rw [hescape]; rfl, by rw [hescape]; rfl⟩
  by_cases hback : c = '\x08'
  · exact .inl ⟨'b', by decide, by rw [hback]; rfl, by rw [hback]; rfl⟩
  by_cases htab : c = '\t'
  · exact .inl ⟨'t', by decide, by rw [htab]; rfl, by rw [htab]; rfl⟩
  by_cases hline : c = '\n'
  · exact .inl ⟨'n', by decide, by rw [hline]; rfl, by rw [hline]; rfl⟩
  by_cases hfeed : c = '\x0c'
  · exact .inl ⟨'f', by decide, by rw [hfeed]; rfl, by rw [hfeed]; rfl⟩
  by_cases hreturn : c = '\r'
  · exact .inl ⟨'r', by decide, by rw [hreturn]; rfl, by rw [hreturn]; rfl⟩
  rw [escapedChar_low hquote hescape hback htab hline hfeed hreturn]
  by_cases hlow : c.toNat < 16
  · have hunit := hexUnit?_control hlow 0 (by decide)
    rw [Nat.mul_zero, Nat.zero_add] at hunit
    exact .inr (.inl ⟨_, _, hunit, by omega, if_pos hlow⟩)
  rw [if_neg hlow]
  by_cases hcontrol : c.toNat < 32
  · have hunit := hexUnit?_control (show c.toNat - 16 < 16 by omega) 1 (by decide)
    rw [show 16 * 1 + (c.toNat - 16) = c.toNat by omega] at hunit
    exact .inr (.inl ⟨_, _, hunit, hcontrol, if_pos hcontrol⟩)
  · exact .inr (.inr ⟨hquote, hescape, hcontrol, if_neg hcontrol⟩)

/-- An escaped character is read as one part, which stands for it. -/
theorem pieces_escapedChar (c : Char) :
    ∃ part : Piece, part.StandsFor c ∧ ∀ rest,
      pieces (escapedChar c ++ rest) = (part :: (pieces rest).1, (pieces rest).2) := by
  rcases escapedChar_cases c with ⟨e, hunit, hshort, hchars⟩ | ⟨a, b, hunit, hcontrol, hchars⟩ |
    ⟨hquote, hescape, hcontrol, hchars⟩
  · rw [hchars]
    exact ⟨.char c, .inl rfl, fun rest => pieces_short hunit hshort rest⟩
  · rw [hchars]
    exact ⟨.unit c.toNat, .inr ⟨rfl, by omega⟩, fun rest => pieces_unit hunit rest⟩
  · rw [hchars]
    exact ⟨.char c, .inl rfl, fun rest => pieces_plain hquote hescape hcontrol rest⟩

/-- A unit that belongs to no pair is a character of its own. -/
theorem joined?_unit {n : Nat} (h : n < 0xD800) (parts : List Piece) :
    joined? (.unit n :: parts) = (joined? parts).map (Char.ofNat n :: ·) := by
  have hhigh : isHigh n = false := by simp only [isHigh, Bool.and_eq_false_iff]; simp; omega
  have hlow : isLow n = false := by simp only [isLow, Bool.and_eq_false_iff]; simp; omega
  cases parts with
  | nil => simp [joined?, hhigh, hlow]
  | cons part parts =>
    cases part with
    | char c =>
      simp only [joined?, hhigh, hlow, Option.map_map]
      rfl
    | unit m => simp [joined?, hhigh, hlow]

theorem joined?_cons {part : Piece} {c : Char} (h : part.StandsFor c) (parts : List Piece) :
    joined? (part :: parts) = (joined? parts).map (c :: ·) := by
  rcases h with rfl | ⟨rfl, hlt⟩
  · rfl
  · rw [joined?_unit hlt, Char.ofNat_toNat]

/-- The escaped characters of a text, and a closing quote, are read as that text. -/
theorem pieces_escaped (text : List Char) :
    ∃ parts, pieces (text.flatMap escapedChar ++ ['"']) = (parts, .quote []) ∧
      joined? parts = some text := by
  induction text with
  | nil => exact ⟨[], rfl, rfl⟩
  | cons c text ih =>
    obtain ⟨parts, hpieces, hjoined⟩ := ih
    obtain ⟨part, hpart, hread⟩ := pieces_escapedChar c
    refine ⟨part :: parts, ?_, ?_⟩
    · rw [List.flatMap_cons, List.append_assoc, hread, hpieces]
    · rw [joined?_cons hpart, hjoined]
      rfl

theorem readString_escaped (s : String) :
    readString (s.toList.flatMap escapedChar ++ ['"']) = .ok (some s, []) := by
  obtain ⟨parts, hpieces, hjoined⟩ := pieces_escaped s.toList
  simp [readString, hpieces, hjoined]

end BenchReport.Json
