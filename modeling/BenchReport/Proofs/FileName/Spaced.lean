import BenchReport.File.Tree
import BenchReport.Proofs.FileName.Normal
import BenchReport.Proofs.Text.ByteCut
import Mathlib.Data.List.Chain

/-!
Names of letters, digits and single spaces: each has a file of its own, with a dash for every space.
-/
namespace BenchReport.FileName

theorem utf8Size_of_safe {c : Char} (h : Safe c) : c.utf8Size = 1 := by
  have hascii : c.toNat < 128 := by
    rcases h with halpha | rfl | rfl
    · apply Nat.lt_of_not_le
      intro hhigh
      rw [Char.isAlphanum, Text.asciiClass_letter.highChar c hhigh,
        Text.asciiClass_digit.highChar c hhigh] at halpha
      cases halpha
    · decide
    · decide
  exact (Text.encode_low hascii).2

/-- Every character of a file name is one byte. -/
theorem byteLength_of_safe {name : List Char} (h : ∀ c ∈ name, Safe c) :
    FileTree.byteLength name = name.length := by
  have hfold (bytes : Nat) : name.foldl (fun bytes c => bytes + c.utf8Size) bytes =
      bytes + name.length := by
    induction name generalizing bytes with
    | nil => rfl
    | cons c rest ih =>
      rw [List.foldl_cons, ih fun d hd => h d (List.mem_cons_of_mem _ hd),
        utf8Size_of_safe (h c List.mem_cons_self), List.length_cons]
      omega
  exact (hfold 0).trans (Nat.zero_add _)

def SpacedChar (c : Char) : Prop := c.isAlphanum = true ∨ c = ' '

instance : DecidablePred SpacedChar := fun c =>
  inferInstanceAs (Decidable (c.isAlphanum = true ∨ c = ' '))

/-- A name of letters, digits and spaces that stand one by one, with something beside a space. -/
structure Spaced (name : List Char) : Prop where
  chars : ∀ c ∈ name, SpacedChar c
  single : name.IsChain fun c d => c = ' ' → d ≠ ' '
  visible : ∃ c ∈ name, c ≠ ' '

-- The name is scanned by hand: of `∃ c ∈ name` an instance may try every character there is.
instance : DecidablePred Spaced := fun name =>
  decidable_of_iff
    (name.all (fun c => decide (SpacedChar c)) = true ∧
      (name.IsChain fun c d => c = ' ' → d ≠ ' ') ∧ name.any (fun c => c != ' ') = true)
    ⟨fun h => ⟨by simpa using h.1, h.2.1, by simpa using h.2.2⟩,
      fun h => ⟨by simpa using h.chars, h.single, by simpa using h.visible⟩⟩

/-- What a space becomes. -/
def dashed (c : Char) : Char := if c = ' ' then '-' else c

variable {c : Char}

theorem safeChar?_of_spacedChar (h : SpacedChar c) : safeChar? c = some (dashed c) := by
  by_cases hspace : c = ' '
  · subst hspace
    rfl
  · rw [safeChar?_of_safe (.inl (h.resolve_right hspace)), dashed, if_neg hspace]

theorem dashed_eq_dash_iff (h : SpacedChar c) : dashed c = '-' ↔ c = ' ' := by
  unfold dashed
  split
  case isTrue hspace => simp [hspace]
  case isFalse hspace =>
    have hdash : c ≠ '-' := by
      rintro rfl
      exact absurd h (by decide)
    simp [hspace, hdash]

theorem dashed_ne_point (h : SpacedChar c) : dashed c ≠ '.' := by
  unfold dashed
  split
  case isTrue => decide
  case isFalse =>
    rintro rfl
    exact absurd h (by decide)

/-- Dashes meet only where spaces do. -/
theorem not_run_map_dashed {name : List Char} (chars : ∀ c ∈ name, SpacedChar c)
    (single : name.IsChain fun c d => c = ' ' → d ≠ ' ') :
    ¬['-', '-'] <:+: name.map dashed := by
  induction name with
  | nil => decide
  | cons c rest ih =>
    have hrest := ih (fun d hd => chars d (List.mem_cons_of_mem _ hd)) single.tail
    rw [List.map_cons, run_cons_iff]
    refine not_or.mpr ⟨?_, hrest⟩
    rintro ⟨hc, hd⟩
    cases rest with
    | nil => cases hd
    | cons d rest =>
      have hspace := (dashed_eq_dash_iff (chars c List.mem_cons_self)).mp hc
      have hspace' := (dashed_eq_dash_iff (chars d (by simp))).mp (Option.some.inj hd)
      exact (List.isChain_cons_cons.mp single).1 hspace hspace'

namespace Spaced

variable {chars : List Char} {name other : String}

/-- With dashes for its spaces a spaced name is safe. -/
theorem safeName (h : Spaced chars) : SafeName (chars.map dashed) := by
  obtain ⟨c, hc, hvisible⟩ := h.visible
  have hmem : dashed c ∈ chars.map dashed := List.mem_map_of_mem hc
  refine ⟨List.ne_nil_of_mem hmem, ?_, ?_, not_run_map_dashed h.chars h.single, ?_⟩
  · exact List.forall_mem_map.mpr fun d hd =>
      safe_of_safeChar? (safeChar?_of_spacedChar (h.chars d hd))
  · intro hpoint
    obtain ⟨d, hd, hdashed⟩ := List.mem_map.mp (List.mem_of_head? hpoint)
    exact dashed_ne_point (h.chars d hd) hdashed
  · intro hdash
    rw [hdash, List.mem_singleton] at hmem
    exact hvisible ((dashed_eq_dash_iff (h.chars c hc)).mp hmem)

/-- The base name of a spaced name has a dash for every space. -/
theorem baseName_toList (h : Spaced name.toList) :
    (baseName name).toList = name.toList.map dashed := by
  have hkept : name.toList.filterMap safeChar? = name.toList.map dashed := by
    rw [← List.filterMap_eq_map]
    exact List.filterMap_congr fun c hc => safeChar?_of_spacedChar (h.chars c hc)
  rw [baseName_of_filterMap hkept h.safeName, String.toList_ofList]

theorem of_alphanumeric (hchars : ∀ c ∈ chars, c.isAlphanum = true) (hne : chars ≠ []) :
    Spaced chars := by
  have hspace : ∀ c ∈ chars, c ≠ ' ' := by
    rintro c hc rfl
    exact absurd (hchars ' ' hc) (by decide)
  obtain ⟨c, hc⟩ := List.exists_mem_of_ne_nil chars hne
  refine ⟨fun c hc => .inl (hchars c hc), ?_, c, hc, hspace c hc⟩
  have hpairs : chars.Pairwise fun c d => c = ' ' → d ≠ ' ' :=
    List.pairwise_of_forall_mem_list fun _ _ d hd _ => hspace d hd
  exact hpairs.isChain

/-- Two spaced names are one together unless two spaces would meet. -/
theorem append {rest : List Char} (h : Spaced chars)
    (hmeet : chars.getLast? ≠ some ' ' ∨ rest.head? ≠ some ' ') (hrest : Spaced rest) :
    Spaced (chars ++ rest) := by
  obtain ⟨c, hc, hvisible⟩ := h.visible
  refine ⟨List.forall_mem_append.mpr ⟨h.chars, hrest.chars⟩, ?_, c, List.mem_append_left _ hc,
    hvisible⟩
  refine List.isChain_append.mpr ⟨h.single, hrest.single, ?_⟩
  rintro c hc d hd rfl rfl
  rcases hmeet with hlast | hhead
  · exact hlast hc
  · exact hhead hd

/-- The dashes of a base name tell where the spaces of a spaced name were. -/
theorem spaces_back (h : Spaced chars) :
    (chars.map dashed).map (fun c => if c = '-' then ' ' else c) = chars := by
  have hchar : ∀ c ∈ chars, (if dashed c = '-' then ' ' else dashed c) = c := by
    intro c hc
    simp only [dashed_eq_dash_iff (h.chars c hc)]
    split
    case isTrue hspace => exact hspace.symm
    case isFalse hspace => exact if_neg hspace
  rw [List.map_map]
  exact (List.map_congr_left hchar).trans (List.map_id' chars)

/-- Spaced names that share a base name are the same. -/
theorem baseName_inj (h : Spaced name.toList) (hother : Spaced other.toList)
    (hsame : baseName name = baseName other) : name = other := by
  apply String.toList_injective
  rw [← h.spaces_back, ← hother.spaces_back, ← h.baseName_toList, ← hother.baseName_toList, hsame]

theorem byteLength_csvName (h : Spaced name.toList) :
    FileTree.byteLength (csvName name).toList = name.toList.length + 4 := by
  rw [byteLength_of_safe fun c hc => safe_of_mem_csvName hc, csvName_toList, h.baseName_toList,
    List.length_append, List.length_map]
  rfl

end Spaced

end BenchReport.FileName
