import BenchReport.File.Path

/-! How a text falls into segments, and what joining a plain name to a directory does to them. -/
namespace BenchReport.Path

/-- A name that is one segment of a path and leads one step down. -/
structure Plain (name : List Char) : Prop where
  nonempty : name ≠ []
  noSlash : '/' ∉ name
  noZero : '\x00' ∉ name
  notHere : name ≠ ['.']
  notUp : name ≠ ['.', '.']

theorem segments_ne_nil (text : List Char) : segments text ≠ [] := by
  cases text with
  | nil => simp [segments]
  | cons c rest =>
    rw [segments]
    split
    · simp
    · split <;> simp

theorem segments_cons_of_ne {c : Char} (h : c ≠ '/') {rest first : List Char}
    {more : List (List Char)} (hrest : segments rest = first :: more) :
    segments (c :: rest) = (c :: first) :: more := by
  rw [segments, if_neg h, hrest]

theorem segments_plain {text : List Char} (h : '/' ∉ text) : segments text = [text] := by
  induction text with
  | nil => rfl
  | cons c rest ih =>
    have hc : c ≠ '/' := fun e => h (by simp [e])
    have hrest : '/' ∉ rest := fun mem => h (List.mem_cons_of_mem _ mem)
    exact segments_cons_of_ne hc (ih hrest)

/-- A slash ends one segment and begins the next. -/
theorem segments_append_slash (before after : List Char) :
    segments (before ++ '/' :: after) = segments before ++ segments after := by
  induction before with
  | nil => simp [segments]
  | cons c rest ih =>
    by_cases hc : c = '/'
    · simp [segments, hc, ih]
    · obtain ⟨first, more, hrest⟩ := List.exists_cons_of_ne_nil (segments_ne_nil rest)
      rw [List.cons_append, segments_cons_of_ne hc hrest, List.cons_append]
      apply segments_cons_of_ne hc
      rw [ih, hrest, List.cons_append]

/-- A joined path is its directory, less a slash at the end, then a slash and the name. -/
theorem join_toList {dir : String} (h : dir.toList ≠ []) (name : String) :
    ∃ stem, (join dir name).toList = stem ++ '/' :: name.toList ∧
      (stem = dir.toList ∨ dir.toList = stem ++ ['/']) := by
  have hdir : dir.isEmpty = false := by
    rw [Bool.eq_false_iff, ne_eq, String.isEmpty_iff]
    rintro rfl
    exact h rfl
  rw [join, hdir, if_neg Bool.false_ne_true]
  by_cases hlast : dir.toList.getLast? = some '/'
  · obtain ⟨stem, hstem⟩ := List.getLast?_eq_some_iff.mp hlast
    refine ⟨stem, ?_, .inr hstem⟩
    rw [if_pos hlast, String.toList_append, hstem, List.append_assoc, List.singleton_append]
  · refine ⟨dir.toList, ?_, .inl rfl⟩
    rw [if_neg hlast, String.toList_append, String.toList_append, List.append_assoc]
    rfl

theorem join_empty (name : String) : join "" name = name := rfl

end BenchReport.Path
