import BenchReport.Proofs.File.Path

/-! The components of a path, told from its segments, and those of a name joined to a directory. -/
namespace BenchReport.Path

/-- What the first segment of a path stands for. -/
def leading (segment : List Char) : List Component :=
  if segment = [] then [.root]
  else if segment = ['.'] then [.here]
  else (innerComponent? segment).toList

theorem innerComponent?_plain {name : List Char} (h : Plain name) :
    innerComponent? name = some (.name name) := by
  rw [innerComponent?, if_neg (not_or.mpr ⟨h.nonempty, h.notHere⟩), if_neg h.notUp]

theorem leading_plain {name : List Char} (h : Plain name) : leading name = [.name name] := by
  rw [leading, if_neg h.nonempty, if_neg h.notHere, innerComponent?_plain h]
  rfl

variable {first : List Char} {rest : List (List Char)}

theorem eq_nil_of_segments {text : List Char} (h : segments text = [[]]) : text = [] := by
  cases text with
  | nil => rfl
  | cons c text =>
    by_cases hc : c = '/'
    · rw [segments, if_pos hc, List.cons.injEq] at h
      exact absurd h.2 (segments_ne_nil text)
    · obtain ⟨first, more, hsegments⟩ := List.exists_cons_of_ne_nil (segments_ne_nil text)
      rw [segments_cons_of_ne hc hsegments] at h
      cases h

/-- Of a path that is not empty the first segment counts as it stands there, and the others only if
they are a name or lead up. -/
theorem components_eq {path : String} (hpath : path.toList ≠ [])
    (h : segments path.toList = first :: rest) :
    components path = leading first ++ rest.filterMap innerComponent? := by
  unfold components
  rw [h]
  cases rest with
  | nil =>
    have hfirst : first ≠ [] := by
      rintro rfl
      exact hpath (eq_nil_of_segments h)
    simp [leading, hfirst]
  | cons second rest =>
    cases first with
    | nil => rfl
    | cons c first => rfl

/-- A plain name that is joined to a directory is one more component. -/
theorem components_join (dir : String) {name : String} (h : Plain name.toList) :
    components (join dir name) = components dir ++ [.name name.toList] := by
  by_cases hdir : dir.toList = []
  · obtain rfl : dir = "" := String.ext hdir
    have hsegments := segments_plain h.noSlash
    rw [join_empty, components_eq h.nonempty hsegments, leading_plain h]
    rfl
  · obtain ⟨stem, hjoin, hstem⟩ := join_toList hdir name
    obtain ⟨first, rest, hsegments⟩ := List.exists_cons_of_ne_nil (segments_ne_nil stem)
    have hjoined : segments (join dir name).toList = first :: (rest ++ [name.toList]) := by
      rw [hjoin, segments_append_slash, segments_plain h.noSlash, hsegments, List.cons_append]
    have hne : (join dir name).toList ≠ [] := by
      rw [hjoin]
      exact List.append_ne_nil_of_right_ne_nil _ (List.cons_ne_nil _ _)
    have hcomponents : components dir = leading first ++ rest.filterMap innerComponent? := by
      rcases hstem with rfl | hslash
      · exact components_eq hdir hsegments
      · have hsegments' : segments dir.toList = first :: (rest ++ [[]]) := by
          rw [hslash, segments_append_slash, hsegments]
          rfl
        rw [components_eq hdir hsegments', List.filterMap_append]
        exact congrArg _ (List.append_nil _)
    rw [components_eq hne hjoined, hcomponents, List.filterMap_append, List.append_assoc,
      List.filterMap_cons_some (innerComponent?_plain h), List.filterMap_nil]

end BenchReport.Path
