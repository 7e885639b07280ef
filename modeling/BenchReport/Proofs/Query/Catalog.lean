import BenchReport.Proofs.FileName.Spaced
import BenchReport.Query.Catalog

/-!
The name of a measurement decides its unit. In the catalog a name is words between single spaces,
so that different names have files of their own.
-/
namespace BenchReport.Query

open FileName (Spaced csvName)
open Text (toList_literal)

/-- The unit that goes with a name. -/
def unitOf (name : List Char) : String :=
  if " request rate".toList <:+ name then UnitName.requestsPerSecond
  else if " request duration ".toList <:+: name then UnitName.milliseconds
  else if name = "Sum of Container CPU Usage".toList then UnitName.millicores
  else UnitName.gigabytes

theorem getLast?_of_rate {name : List Char} (h : " request rate".toList <:+ name) :
    name.getLast? = some 'e' := by
  obtain ⟨before, rfl⟩ := h
  rw [List.getLast?_append, toList_literal rfl]
  rfl

theorem unitOf_rate (name : List Char) :
    unitOf (name ++ " request rate".toList) = UnitName.requestsPerSecond :=
  if_pos (List.suffix_append _ _)

theorem unitOf_duration (name : List Char) {rest : List Char} {c : Char}
    (hlast : rest.getLast? = some c) (hc : c ≠ 'e') :
    unitOf (name ++ (" request duration ".toList ++ rest)) = UnitName.milliseconds := by
  have hrate : ¬" request rate".toList <:+ name ++ (" request duration ".toList ++ rest) := by
    intro h
    have hend := getLast?_of_rate h
    rw [List.getLast?_append, List.getLast?_append, hlast, Option.some_or, Option.some_or,
      Option.some.injEq] at hend
    exact hc hend
  rw [unitOf, if_neg hrate]
  exact if_pos ⟨name, rest, by simp⟩

/-- What the name of a measurement tells: its unit, and a file that can be made. -/
structure Named (m : Measurement) : Prop where
  unit : m.unit = unitOf m.name.toList
  spaced : Spaced m.name.toList
  short : m.name.toList.length + 4 ≤ FileTree.longestName

/-- A name that more words can follow. -/
structure Leading (name : List Char) : Prop where
  spaced : Spaced name
  last : name.getLast? ≠ some ' '
  short : name.length ≤ 200

instance : DecidablePred Leading := fun name =>
  decidable_of_iff (Spaced name ∧ name.getLast? ≠ some ' ' ∧ name.length ≤ 200)
    ⟨fun h => ⟨h.1, h.2.1, h.2.2⟩, fun h => ⟨h.spaced, h.last, h.short⟩⟩

variable {name job method route code label : String} {window : Window}

theorem Leading.named {m : Measurement} (h : Leading name.toList) (words : List Char)
    (hname : m.name.toList = name.toList ++ words) (hunit : m.unit = unitOf (name.toList ++ words))
    (hwords : Spaced words) (hshort : words.length ≤ 51) : Named m := by
  have hlead := h.short
  refine ⟨?_, ?_, ?_⟩
  · rw [hunit, hname]
  · rw [hname]
    exact h.spaced.append (.inl h.last) hwords
  · rw [hname, List.length_append, FileTree.longestName]
    omega

theorem Leading.named_rate {m : Measurement} (h : Leading name.toList)
    (hname : m.name = name ++ " request rate") (hunit : m.unit = UnitName.requestsPerSecond) :
    Named m := by
  refine h.named " request rate".toList ?_ ?_ ?_ ?_
  · rw [hname, String.toList_append]
  · rw [hunit, unitOf_rate]
  · rw [toList_literal rfl]
    decide
  · rw [toList_literal rfl]
    decide

theorem Leading.named_duration {m : Measurement} {statistic : List Char} {c : Char}
    (h : Leading name.toList)
    (hname : m.name.toList = name.toList ++ (" request duration ".toList ++ statistic))
    (hunit : m.unit = UnitName.milliseconds) (halpha : ∀ d ∈ statistic, d.isAlphanum = true)
    (hlast : statistic.getLast? = some c) (hc : c ≠ 'e') (hshort : statistic.length ≤ 10) :
    Named m := by
  have hne : statistic ≠ [] := by
    rintro rfl
    cases hlast
  have hhead : statistic.head? ≠ some ' ' := by
    intro hspace
    exact absurd (halpha ' ' (List.mem_of_mem_head? hspace)) (by decide)
  have hwords : Spaced " request duration ".toList := by
    rw [toList_literal rfl]
    decide
  refine h.named _ hname ?_ (hwords.append (.inr hhead) (.of_alphanumeric halpha hne)) ?_
  · rw [hunit, unitOf_duration _ hlast hc]
  · rw [List.length_append, toList_literal rfl]
    simp only [List.length_cons, List.length_nil]
    omega

theorem named_requestRate (h : Leading name.toList) :
    Named (requestRate name job route code window label) :=
  h.named_rate rfl rfl

theorem named_indexRequestRate {operation : Operation} (h : Leading name.toList) :
    Named (indexRequestRate name job operation code window) :=
  h.named_rate rfl rfl

theorem named_requestDurationAverage (h : Leading name.toList) :
    Named (requestDurationAverage name job method route code window label) := by
  have hname : (name ++ " request duration avg").toList =
      name.toList ++ (" request duration ".toList ++ ['a', 'v', 'g']) := by
    rw [String.toList_append, toList_literal rfl, toList_literal rfl]
    rfl
  exact h.named_duration hname rfl (List.all_eq_true.mp rfl) rfl (by decide) (by decide)

theorem named_requestDurationQuantile {percentile : Nat} (h : Leading name.toList) :
    Named (requestDurationQuantile name job method route code percentile window label) := by
  obtain ⟨digits, hdigits⟩ : ∃ digits, digits = Nat.toDigits 10 (min percentile 100) := ⟨_, rfl⟩
  have hname : (name ++ " request duration P" ++ toString (min percentile 100)).toList =
      name.toList ++ (" request duration ".toList ++ 'P' :: digits) := by
    rw [String.toList_append, String.toList_append, toList_literal rfl, toList_literal rfl,
      hdigits]
    simp
  have hdigit : ∀ c ∈ digits, c.isDigit = true := by
    intro c hc
    rw [hdigits] at hc
    exact Nat.isDigit_of_mem_toDigits (by decide) (by decide) hc
  have halpha : ∀ c ∈ 'P' :: digits, c.isAlphanum = true := by
    refine List.forall_mem_cons.mpr ⟨by decide, fun c hc => ?_⟩
    rw [Char.isAlphanum, hdigit c hc, Bool.or_true]
  have hshort : ('P' :: digits).length ≤ 10 := by
    have hfew : digits.length ≤ 3 := by
      rw [hdigits, Nat.length_toDigits_le_iff (by decide) (by decide)]
      omega
    rw [List.length_cons]
    omega
  rcases List.eq_nil_or_concat digits with hnil | ⟨before, c, hlast⟩
  · rw [hnil] at hdigits
    exact absurd hdigits.symm Nat.toDigits_ne_nil
  · have hc : c ≠ 'e' := by
      rintro rfl
      exact absurd (hdigit 'e' (by simp [hlast])) (by decide)
    have hend : ('P' :: digits).getLast? = some c := by
      rw [hlast, List.concat_eq_append, ← List.cons_append, List.getLast?_concat]
    exact h.named_duration hname rfl halpha hend hc hshort

theorem named_of_text {m : Measurement} {text : List Char} (unit : String)
    (hname : m.name.toList = text) (hunit : m.unit = unit) (hdecided : unit = unitOf text)
    (hspaced : Spaced text) (hshort : text.length + 4 ≤ FileTree.longestName) : Named m := by
  subst hname hunit
  exact ⟨hdecided, hspaced, hshort⟩

theorem named_resources : ∀ m ∈ Catalog.resources job window label, Named m := by
  have hcpu : Named (containerCpu job window label) :=
    named_of_text UnitName.millicores (toList_literal rfl) rfl (by decide) (by decide) (by decide)
  have hmemory : Named (containerWorkingSet job window label) :=
    named_of_text UnitName.gigabytes (toList_literal rfl) rfl (by decide) (by decide) (by decide)
  have hheap : Named (containerHeap job label) :=
    named_of_text UnitName.gigabytes (toList_literal rfl) rfl (by decide) (by decide) (by decide)
  have hvolume : Named (volumeUsed job window label) :=
    named_of_text UnitName.gigabytes (toList_literal rfl) rfl (by decide) (by decide) (by decide)
  simpa [Catalog.resources] using ⟨hcpu, hmemory, hheap, hvolume⟩

theorem named_requestFamily (h : Leading name.toList) :
    ∀ m ∈ Catalog.requestFamily name job method route window label, Named m := by
  refine List.forall_mem_cons.mpr ⟨named_requestRate h, ?_⟩
  refine List.forall_mem_cons.mpr ⟨named_requestDurationAverage h, ?_⟩
  rintro m hm
  obtain ⟨percentile, -, rfl⟩ := List.mem_map.mp hm
  exact named_requestDurationQuantile h

namespace Catalog

theorem named : ∀ m ∈ all window, Named m := by
  have hwrite : ∀ m ∈ writePath window, Named m := by
    refine List.forall_mem_append.mpr ⟨?_, ?_⟩
    · exact named_requestFamily (by rw [toList_literal rfl]; decide)
    · exact named_requestFamily (by rw [toList_literal rfl]; decide)
  have hread : ∀ m ∈ readPath window, Named m := by
    refine List.forall_mem_append.mpr ⟨List.forall_mem_append.mpr ⟨?_, ?_⟩, ?_⟩
    · exact named_requestFamily (by rw [toList_literal rfl]; decide)
    · exact named_requestFamily (by rw [toList_literal rfl]; decide)
    · exact named_requestFamily (by rw [toList_literal rfl]; decide)
  have hindex : ∀ m ∈ index window, Named m := by
    have hwriteName : Leading Index.writeName.toList := by
      rw [Index.writeName, toList_literal rfl]
      decide
    have hreadName : Leading Index.readName.toList := by
      rw [Index.readName, toList_literal rfl]
      decide
    simpa [index] using ⟨named_indexRequestRate hwriteName, named_indexRequestRate hreadName⟩
  have hresources : ∀ m ∈ allResources window, Named m := by
    intro m hm
    obtain ⟨component, -, hm⟩ := List.mem_flatMap.mp hm
    exact named_resources m hm
  simp only [all, List.forall_mem_append]
  exact ⟨⟨⟨hwrite, hread⟩, hindex⟩, hresources⟩

variable {a b : Measurement}

theorem byteLength_csvName_le (h : a ∈ all window) :
    FileTree.byteLength (csvName a.name).toList ≤ FileTree.longestName := by
  rw [(named a h).spaced.byteLength_csvName]
  exact (named a h).short

theorem unit_eq (ha : a ∈ all window) (hb : b ∈ all window) (h : a.name = b.name) :
    a.unit = b.unit := by
  rw [(named a ha).unit, (named b hb).unit, h]

theorem name_eq (ha : a ∈ all window) (hb : b ∈ all window) (h : csvName a.name = csvName b.name) :
    a.name = b.name :=
  (named a ha).spaced.baseName_inj (named b hb).spaced (FileName.csvName_inj.mp h)

end Catalog

end BenchReport.Query
