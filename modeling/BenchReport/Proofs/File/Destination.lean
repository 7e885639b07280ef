import BenchReport.Proofs.File.CommonParent
import BenchReport.Proofs.File.Tree

/-!
Where paths lead, told from their components. A path that leads somewhere in a tree leads to its
destination, and a destination lies below the place that the steps begin at exactly if they go down
again all names that they climb out of.
-/
namespace BenchReport.Path

/-- The place that a component leads to from another place. -/
def Component.follow (place : Place) : Component → Place
  | .root => []
  | .here => place
  | .up => place.dropLast
  | .name text => place ++ [text]

/-- The place that a path leads to from a directory, whether anything stands there or not. -/
def destination (start : Place) (path : String) : Place :=
  (components path).foldl Component.follow start

/-- A path that begins at the root. -/
def Absolute (path : String) : Prop := path.toList.head? = some '/'

/-! ## Steps up and down again -/

/-- What is left of steps: how many levels they climb, and the names that they then go down. -/
structure Detour where
  climb : Nat
  names : List (List Char)

namespace Detour

/-- One more step. The root is as many levels up as the steps began below it. -/
def extend (depth : Nat) (detour : Detour) : Component → Detour
  | .root => ⟨depth, []⟩
  | .here => detour
  | .up => if detour.names = [] then ⟨detour.climb + 1, []⟩ else
      ⟨detour.climb, detour.names.dropLast⟩
  | .name text => ⟨detour.climb, detour.names ++ [text]⟩

/-- What is left of steps from a place of a depth. -/
def ofParts (depth : Nat) (parts : List Component) : Detour := parts.foldl (extend depth) ⟨0, []⟩

/-- The place that is reached from another one. -/
def reach (detour : Detour) (start : Place) : Place :=
  start.take (start.length - detour.climb) ++ detour.names

/-- All names that were climbed out of are gone down again. -/
def Returns (detour : Detour) (start : Place) : Prop :=
  start.drop (start.length - detour.climb) <+: detour.names

theorem reach_extend (detour : Detour) (start : Place) (part : Component) :
    (detour.extend start.length part).reach start = part.follow (detour.reach start) := by
  cases part with
  | root => simp [extend, reach, Component.follow]
  | here => rfl
  | up =>
    by_cases hnames : detour.names = []
    · rw [extend, if_pos hnames]
      simp only [reach, Component.follow, hnames, List.append_nil]
      rw [List.dropLast_eq_take, List.take_take, List.length_take]
      congr 1
      omega
    · rw [extend, if_neg hnames]
      simp only [reach, Component.follow, List.dropLast_append_of_ne_nil hnames]
  | name text => simp only [extend, reach, Component.follow, List.append_assoc]

theorem reach_foldl (parts : List Component) (detour : Detour) (start : Place) :
    (parts.foldl (extend start.length) detour).reach start =
      parts.foldl Component.follow (detour.reach start) := by
  induction parts generalizing detour with
  | nil => rfl
  | cons part rest ih => rw [List.foldl_cons, List.foldl_cons, ih, reach_extend]

theorem reach_ofParts (parts : List Component) (start : Place) :
    (ofParts start.length parts).reach start = parts.foldl Component.follow start := by
  have hbegin : (⟨0, []⟩ : Detour).reach start = start := by simp [reach]
  rw [ofParts, reach_foldl, hbegin]

/-- What is reached lies below the start exactly if all that was climbed is gone down again. -/
theorem prefix_reach_iff (detour : Detour) (start : Place) :
    start <+: detour.reach start ↔ detour.Returns start := by
  have hsplit := List.take_append_drop (start.length - detour.climb) start
  calc start <+: detour.reach start
    _ ↔ start.take (start.length - detour.climb) ++ start.drop (start.length - detour.climb) <+:
        start.take (start.length - detour.climb) ++ detour.names := by rw [hsplit, reach]
    _ ↔ detour.Returns start := List.prefix_append_right_inj _

theorem climb_foldl {parts : List Component} (hroot : .root ∉ parts) (hup : .up ∉ parts)
    (depth : Nat) (detour : Detour) :
    (parts.foldl (extend depth) detour).climb = detour.climb := by
  induction parts generalizing detour with
  | nil => rfl
  | cons part rest ih =>
    rw [List.mem_cons, not_or] at hroot hup
    rw [List.foldl_cons, ih hroot.2 hup.2]
    cases part with
    | root => exact absurd rfl hroot.1
    | here => rfl
    | up => exact absurd rfl hup.1
    | name text => rfl

/-- Steps that never lead up stay below where they begin. -/
theorem returns_of_down {parts : List Component} (hroot : .root ∉ parts) (hup : .up ∉ parts)
    (start : Place) : (ofParts start.length parts).Returns start := by
  rw [Returns, ofParts, climb_foldl hroot hup, Nat.sub_zero, List.drop_length]
  exact List.nil_prefix

end Detour

/-! ## The root -/

theorem segments_slash (rest : List Char) : segments ('/' :: rest) = [] :: segments rest := by
  rw [segments, if_pos rfl]

theorem absolute_iff_segments {path : String} {first : List Char} {rest : List (List Char)}
    (hpath : path.toList ≠ []) (h : segments path.toList = first :: rest) :
    Absolute path ↔ first = [] := by
  obtain ⟨c, text, htext⟩ := List.exists_cons_of_ne_nil hpath
  rw [Absolute, htext, List.head?_cons, Option.some.injEq]
  rw [htext] at h
  by_cases hc : c = '/'
  · rw [hc, segments_slash, List.cons.injEq] at h
    exact iff_of_true hc h.1.symm
  · obtain ⟨next, more, hsegments⟩ := List.exists_cons_of_ne_nil (segments_ne_nil text)
    rw [segments_cons_of_ne hc hsegments, List.cons.injEq] at h
    exact iff_of_false hc (h.1 ▸ List.cons_ne_nil _ _)

theorem Component.Inner.ne_root {part : Component} (h : part.Inner) : part ≠ .root := by
  rintro rfl
  exact nomatch h.counts

/-- Only the first component can be the root. -/
theorem root_notMem_tail (path : String) : .root ∉ (components path).tail := by
  have hspelled := spelled_components path
  cases hparts : components path with
  | nil => exact List.not_mem_nil
  | cons first rest =>
    rw [hparts] at hspelled
    exact fun hmem => (hspelled.2.2 _ hmem).ne_root rfl

/-- The first component of a path is the root exactly if the path begins with a slash. -/
theorem absolute_iff {path : String} : Absolute path ↔ [.root] <+: components path := by
  by_cases hpath : path.toList = []
  · simp [Absolute, hpath, components_empty hpath]
  · obtain ⟨first, rest, hsegments⟩ := List.exists_cons_of_ne_nil (segments_ne_nil path.toList)
    obtain ⟨part, hpart, htext⟩ := leading_eq first
    rw [absolute_iff_segments hpath hsegments, components_eq hpath hsegments, hpart,
      List.singleton_append, List.cons_prefix_cons, and_iff_left List.nil_prefix]
    constructor
    · rintro rfl
      rw [leading, if_pos rfl, List.cons.injEq] at hpart
      exact hpart.1
    · rintro rfl
      exact htext.symm

end BenchReport.Path

namespace BenchReport.FileTree

open BenchReport.Path

variable {tree : FileTree} {place next : Place}

/-! ## Paths that lead somewhere -/

theorem step_eq_follow {segment : List Char} (h : tree.step place segment = .ok next) :
    next = (innerComponent? segment).toList.foldl Component.follow place := by
  rw [step, step_directory h] at h
  unfold innerComponent?
  by_cases hstay : segment = [] ∨ segment = ['.']
  · rw [if_pos hstay] at *
    cases h
    rfl
  by_cases hup : segment = ['.', '.']
  · rw [if_neg hstay, if_pos hup] at *
    cases h
    rfl
  · simp only [hstay, hup, if_false] at h ⊢
    split at h
    · cases h
    · cases h
      rfl

theorem walk_eq_follow {segments : List (List Char)} (h : tree.walk place segments = .ok next) :
    next = (segments.filterMap innerComponent?).foldl Component.follow place := by
  induction segments generalizing place with
  | nil =>
    cases h
    rfl
  | cons segment rest ih =>
    obtain ⟨first, hstep, hwalk⟩ := walk_cons_ok h
    rw [ih hwalk, step_eq_follow hstep, ← List.foldl_append]
    congr 1
    cases hcounts : innerComponent? segment <;> simp [hcounts]

/-- A path that leads somewhere leads to its destination. -/
theorem resolve_eq_destination {path : String} (h : tree.resolve path = .ok place) :
    place = destination tree.workingDirectory path := by
  obtain ⟨hpath, -, hwalk⟩ := resolve_ok h
  obtain ⟨first, rest, hsegments⟩ := List.exists_cons_of_ne_nil (segments_ne_nil path.toList)
  have habsolute := absolute_iff_segments hpath hsegments
  rw [hsegments] at hwalk
  rw [walk_eq_follow hwalk, destination, components_eq hpath hsegments]
  by_cases hempty : first = []
  · have horigin : tree.origin path.toList = [] := if_pos (habsolute.mpr hempty)
    rw [horigin, hempty]
    rfl
  · have horigin : tree.origin path.toList = tree.workingDirectory :=
      if_neg (habsolute.not.mpr hempty)
    rw [horigin, leading, if_neg hempty]
    by_cases hhere : first = ['.']
    · rw [hhere]
      rfl
    · rw [if_neg hhere]
      cases hcounts : innerComponent? first <;> simp [hcounts]

theorem joinPlace_eq_destination {dir : String} (h : tree.joinPlace dir = .ok place) :
    place = destination tree.workingDirectory dir := by
  unfold joinPlace at h
  split at h
  case isTrue hempty =>
    cases h
    rw [destination, components_empty hempty]
    rfl
  case isFalse => exact resolve_eq_destination h

end BenchReport.FileTree
