import BenchReport.NameMap
import Mathlib.Data.List.Dedup

/-! The entries of a map are its look-ups, and values inserted in turn leave the last of a name. -/
namespace BenchReport.NameMap

variable {α : Type}

theorem find?_of_mem {entries : List (String × α)} (h : entries.Pairwise (·.1 < ·.1))
    {entry : String × α} (hmem : entry ∈ entries) :
    (entries.find? fun other => other.1 = entry.1) = some entry := by
  induction entries with
  | nil => cases hmem
  | cons head rest ih =>
    obtain ⟨below, tail⟩ := List.pairwise_cons.mp h
    rcases List.mem_cons.mp hmem with rfl | hmem
    · exact List.find?_cons_of_pos (by simp)
    · have hne : head.1 ≠ entry.1 := by
        intro same
        have hlt := below entry hmem
        rw [same] at hlt
        exact String.lt_irrefl _ hlt
      rw [List.find?_cons_of_neg (by simpa using hne), ih tail hmem]

/-- What stands in the list of entries is what is found under its name. -/
theorem mem_entries_iff {map : NameMap α} {name : String} {value : α} :
    (name, value) ∈ map.entries ↔ map.get? name = some value := by
  constructor
  · intro h
    rw [get?, find?_of_mem map.sorted h]
    rfl
  · intro h
    obtain ⟨entry, hfind, hvalue⟩ := Option.map_eq_some_iff.mp h
    have hmem := List.mem_of_find?_eq_some hfind
    have hname : entry.1 = name := by simpa using List.find?_some hfind
    rw [← hname, ← hvalue]
    exact hmem

theorem mem_names_iff {map : NameMap α} {name : String} :
    name ∈ map.names ↔ ∃ value, map.get? name = some value := by
  simp only [names, List.mem_map, Prod.exists, mem_entries_iff, exists_and_right, exists_eq_right]

/-- After the entry of a name no other entry has that name. -/
theorem exists_split {map : NameMap α} {name : String} {value : α}
    (h : map.get? name = some value) :
    ∃ before after, map.entries = before ++ (name, value) :: after ∧
      ∀ later ∈ after, later.1 ≠ name := by
  obtain ⟨before, after, hsplit⟩ := List.append_of_mem (mem_entries_iff.mpr h)
  have hsorted := map.sorted
  rw [hsplit, List.pairwise_append, List.pairwise_cons] at hsorted
  refine ⟨before, after, hsplit, fun later hlater hname => ?_⟩
  have hlt := hsorted.2.1.1 later hlater
  rw [hname] at hlt
  exact String.lt_irrefl _ hlt

/-- In the order of a map, a name that stands after no other is at most that one. -/
theorem le_of_entries {map : NameMap α} {before after : List (String × α)} {name other : String}
    {value : α} (hsplit : map.entries = before ++ (name, value) :: after)
    (hother : other ∈ map.names) (hafter : ∀ entry ∈ after, entry.1 ≠ other) : other ≤ name := by
  obtain ⟨entry, hentry, rfl⟩ := List.mem_map.mp hother
  have hsorted := map.sorted
  rw [hsplit, List.pairwise_append] at hsorted
  rw [hsplit] at hentry
  rcases List.mem_append.mp hentry with hbefore | hentry
  · exact Std.le_of_lt (hsorted.2.2 entry hbefore (name, value) List.mem_cons_self)
  · rcases List.mem_cons.mp hentry with rfl | hlater
    · exact Std.le_refl _
    · exact absurd rfl (hafter entry hlater)

theorem nodup_names (map : NameMap α) : map.names.Nodup := by
  refine List.pairwise_map.mpr (map.sorted.imp fun hlt hsame => ?_)
  rw [hsame] at hlt
  exact String.lt_irrefl _ hlt

theorem names_perm_dedup {map : NameMap α} {names : List String}
    (h : ∀ name, name ∈ map.names ↔ name ∈ names) : map.names.Perm names.dedup := by
  refine (List.perm_ext_iff_of_nodup map.nodup_names (List.nodup_dedup _)).mpr fun name => ?_
  rw [h, List.mem_dedup]

/-- A map has as many entries as there are different names. -/
theorem size_eq_length_dedup {map : NameMap α} {names : List String}
    (h : ∀ name, name ∈ map.names ↔ name ∈ names) : map.size = names.dedup.length := by
  rw [← (names_perm_dedup h).length_eq, NameMap.names, List.length_map]
  rfl

theorem mem_values_iff {map : NameMap α} {value : α} :
    value ∈ map.values ↔ ∃ name, map.get? name = some value := by
  simp only [values, List.mem_map, Prod.exists, mem_entries_iff, exists_eq_right]

/-- The last value that passes a test is one after which none passes it. -/
theorem find?_reverse_eq_some_iff {p : α → Bool} {values : List α} {value : α} :
    values.reverse.find? p = some value ↔
      p value = true ∧ ∃ before after, values = before ++ value :: after ∧
        ∀ later ∈ after, p later = false := by
  rw [List.find?_eq_some_iff_append]
  apply and_congr_right
  intro _
  constructor
  · rintro ⟨after, before, hsplit, hafter⟩
    refine ⟨before.reverse, after.reverse, ?_, fun later hlater => ?_⟩
    · rw [← List.reverse_reverse values, hsplit]
      simp
    · simpa using hafter later (List.mem_reverse.mp hlater)
  · rintro ⟨before, after, rfl, hafter⟩
    refine ⟨after.reverse, before.reverse, by simp, fun later hlater => ?_⟩
    simpa using hafter later (List.mem_reverse.mp hlater)

/-- After insertions in turn a name has the last value inserted under it, or the one it had. -/
theorem get?_insertAll (key : α → String) (values : List α) (map : NameMap α) (name : String) :
    (values.foldl (fun map value => map.insert (key value) value) map).get? name =
      (values.reverse.find? fun value => key value = name).or (map.get? name) := by
  induction values generalizing map with
  | nil => rfl
  | cons value rest ih =>
    rw [List.foldl_cons, ih, get?_insert, List.reverse_cons, List.find?_append]
    by_cases h : key value = name
    · rw [List.find?_cons_of_pos (by simpa using h), if_pos h, Option.or_assoc]
      rfl
    · rw [List.find?_cons_of_neg (by simpa using h), if_neg h, List.find?_nil, Option.or_none]

end BenchReport.NameMap
