import BenchReport.Proofs.File.Components
import Mathlib.Data.List.Basic
import Mathlib.Tactic.Tauto

/-!
The common parent of paths. Paths that begin with the same components have a path of just these
components, so the parent is the longest path with which all of them begin, and neither their order
nor their repetition matters.
-/
namespace BenchReport.Path

section

variable {α : Type} [DecidableEq α] {parts xs ys : List α}

/-- A common beginning of two lists is one of their longest common beginning. -/
theorem prefix_commonPrefix_iff :
    parts <+: commonPrefix xs ys ↔ parts <+: xs ∧ parts <+: ys := by
  induction parts generalizing xs ys with
  | nil => simp
  | cons part rest ih =>
    cases xs with
    | nil => simp [commonPrefix]
    | cons x xs =>
      cases ys with
      | nil => simp [commonPrefix]
      | cons y ys =>
        rw [commonPrefix]
        by_cases hsame : x = y
        · subst hsame
          rw [if_pos rfl, List.cons_prefix_cons, List.cons_prefix_cons, List.cons_prefix_cons, ih]
          tauto
        · rw [if_neg hsame, List.cons_prefix_cons, List.cons_prefix_cons]
          constructor
          · intro h
            exact absurd (List.prefix_nil.mp h) (List.cons_ne_nil _ _)
          · rintro ⟨⟨hx, -⟩, hy, -⟩
            exact absurd (hx.symm.trans hy) hsame

omit [DecidableEq α] in
theorem eq_of_prefix_iff (h : ∀ parts, parts <+: xs ↔ parts <+: ys) : xs = ys :=
  ((h xs).mp List.prefix_rfl).eq_of_length_le ((h ys).mpr List.prefix_rfl).length_le

end

/-! ## The components of a path that is made of components -/

/-- A component that counts wherever it stands after another one. -/
structure Component.Inner (part : Component) : Prop where
  noSlash : '/' ∉ part.text
  counts : innerComponent? part.text = some part

/-- Components that some path has. -/
def Spelled : List Component → Prop
  | [] => True
  | first :: rest => '/' ∉ first.text ∧ leading first.text = [first] ∧ ∀ part ∈ rest, part.Inner

theorem noSlash_of_mem_segments {text segment : List Char} (h : segment ∈ segments text) :
    '/' ∉ segment := by
  induction text generalizing segment with
  | nil => simp_all [segments]
  | cons c rest ih =>
    by_cases hc : c = '/'
    · rw [segments, if_pos hc, List.mem_cons] at h
      rcases h with rfl | h
      · exact List.not_mem_nil
      · exact ih h
    · obtain ⟨first, more, hrest⟩ := List.exists_cons_of_ne_nil (segments_ne_nil rest)
      rw [segments_cons_of_ne hc hrest, List.mem_cons] at h
      rw [hrest] at ih
      rcases h with rfl | h
      · rw [List.mem_cons, not_or]
        exact ⟨Ne.symm hc, ih List.mem_cons_self⟩
      · exact ih (List.mem_cons_of_mem _ h)

theorem text_of_innerComponent? {segment : List Char} {part : Component}
    (h : innerComponent? segment = some part) : part.text = segment := by
  unfold innerComponent? at h
  split at h
  case isTrue => cases h
  case isFalse =>
    split at h
    case isTrue hup =>
      cases h
      exact hup.symm
    case isFalse =>
      cases h
      rfl

/-- Wherever it leads, the first segment is one component. -/
theorem leading_eq (segment : List Char) :
    ∃ part, leading segment = [part] ∧ part.text = segment := by
  unfold leading
  by_cases hempty : segment = []
  · exact ⟨.root, if_pos hempty, hempty.symm⟩
  by_cases hhere : segment = ['.']
  · exact ⟨.here, by rw [if_neg hempty, if_pos hhere], hhere.symm⟩
  rw [if_neg hempty, if_neg hhere, innerComponent?, if_neg (not_or.mpr ⟨hempty, hhere⟩)]
  by_cases hup : segment = ['.', '.']
  · exact ⟨.up, by rw [if_pos hup]; rfl, hup.symm⟩
  · exact ⟨.name segment, by rw [if_neg hup]; rfl, rfl⟩

theorem components_empty {path : String} (h : path.toList = []) : components path = [] := by
  rw [components, h]
  rfl

theorem spelled_components (path : String) : Spelled (components path) := by
  by_cases hpath : path.toList = []
  · rw [components_empty hpath]
    trivial
  · obtain ⟨first, rest, hsegments⟩ := List.exists_cons_of_ne_nil (segments_ne_nil path.toList)
    obtain ⟨part, hpart, htext⟩ := leading_eq first
    have hslash {segment : List Char} (h : segment ∈ first :: rest) : '/' ∉ segment :=
      noSlash_of_mem_segments (hsegments ▸ h)
    rw [components_eq hpath hsegments, hpart]
    refine ⟨htext ▸ hslash List.mem_cons_self, htext.symm ▸ hpart, fun inner hinner => ?_⟩
    obtain ⟨segment, hmem, hcounts⟩ := List.mem_filterMap.mp hinner
    have hinnerText := text_of_innerComponent? hcounts
    exact ⟨hinnerText ▸ hslash (List.mem_cons_of_mem _ hmem), hinnerText.symm ▸ hcounts⟩

theorem Spelled.of_initial {parts whole : List Component} (h : Spelled whole)
    (hparts : parts <+: whole) : Spelled parts := by
  cases whole with
  | nil =>
    rw [List.prefix_nil.mp hparts]
    trivial
  | cons first rest =>
    rcases List.prefix_cons_iff.mp hparts with rfl | ⟨some, rfl, hsome⟩
    · trivial
    · exact ⟨h.1, h.2.1, fun part hpart => h.2.2 part (hsome.subset hpart)⟩

theorem Spelled.noSlash {parts : List Component} (h : Spelled parts) :
    ∀ text ∈ parts.map Component.text, '/' ∉ text := by
  intro text htext
  obtain ⟨part, hpart, rfl⟩ := List.mem_map.mp htext
  cases parts with
  | nil => cases hpart
  | cons first rest =>
    rcases List.mem_cons.mp hpart with rfl | hpart
    · exact h.1
    · exact (h.2.2 part hpart).noSlash

/-- Texts without slashes are the segments of the text that joins them with slashes. -/
theorem segments_intercalate {texts : List (List Char)} (hne : texts ≠ [])
    (h : ∀ text ∈ texts, '/' ∉ text) : segments (['/'].intercalate texts) = texts := by
  induction texts with
  | nil => exact absurd rfl hne
  | cons text rest ih =>
    have htext : '/' ∉ text := h text List.mem_cons_self
    cases rest with
    | nil => rw [List.intercalate_singleton, segments_plain htext]
    | cons next more =>
      have hrest := ih (List.cons_ne_nil _ _) fun other hother =>
        h other (List.mem_cons_of_mem _ hother)
      rw [List.intercalate_cons_cons, List.append_assoc, List.singleton_append,
        segments_append_slash, segments_plain htext, hrest, List.singleton_append]

theorem ofComponents_toList {parts : List Component} (h : parts ≠ [.root]) :
    (ofComponents parts).toList = ['/'].intercalate (parts.map Component.text) := by
  unfold ofComponents
  split
  case h_1 => exact absurd rfl h
  case h_2 => rw [String.toList_ofList]

/-- The path of components that some path has has them too. -/
theorem components_ofComponents {parts : List Component} (h : Spelled parts) :
    components (ofComponents parts) = parts := by
  cases parts with
  | nil => rfl
  | cons first rest =>
    by_cases hroot : first :: rest = [.root]
    · rw [hroot]
      rfl
    have hsegments : segments (ofComponents (first :: rest)).toList =
        first.text :: rest.map Component.text := by
      rw [ofComponents_toList hroot]
      exact segments_intercalate (List.cons_ne_nil _ _) h.noSlash
    have hne : (ofComponents (first :: rest)).toList ≠ [] := by
      intro hempty
      rw [hempty, segments, List.cons.injEq] at hsegments
      obtain ⟨htext, hrest⟩ := hsegments
      have hfirst : leading [] = [first] := htext ▸ h.2.1
      cases hfirst
      rw [List.map_eq_nil_iff.mp hrest.symm] at hroot
      exact hroot rfl
    rw [components_eq hne hsegments, h.2.1, List.filterMap_map, List.singleton_append]
    refine congrArg _ ((List.filterMap_congr fun part hpart => ?_).trans List.filterMap_some)
    exact (h.2.2 part hpart).counts

/-! ## What paths share -/

/-- The components with which a path and others begin. -/
def shared (first : String) (rest : List String) : List Component :=
  rest.foldl (fun common path => commonPrefix common (components path)) (components first)

theorem commonParent?_cons (first : String) (rest : List String) :
    commonParent? (first :: rest) = some (ofComponents (shared first rest)) := rfl

theorem prefix_foldl_commonPrefix_iff {parts common : List Component} {paths : List String} :
    parts <+: paths.foldl (fun common path => commonPrefix common (components path)) common ↔
      parts <+: common ∧ ∀ path ∈ paths, parts <+: components path := by
  induction paths generalizing common with
  | nil => simp
  | cons path rest ih =>
    rw [List.foldl_cons, ih, prefix_commonPrefix_iff, List.forall_mem_cons, and_assoc]

theorem prefix_shared_iff {parts : List Component} {first : String} {rest : List String} :
    parts <+: shared first rest ↔ ∀ path ∈ first :: rest, parts <+: components path := by
  rw [shared, prefix_foldl_commonPrefix_iff, List.forall_mem_cons]

theorem components_ofComponents_shared (first : String) (rest : List String) :
    components (ofComponents (shared first rest)) = shared first rest := by
  have hfirst : shared first rest <+: components first :=
    prefix_shared_iff.mp List.prefix_rfl first List.mem_cons_self
  exact components_ofComponents ((spelled_components first).of_initial hfirst)

/-- The parent of paths begins with exactly what all of them begin with. -/
theorem prefix_commonParent_iff {paths : List String} {parent : String}
    (h : commonParent? paths = some parent) {parts : List Component} :
    parts <+: components parent ↔ ∀ path ∈ paths, parts <+: components path := by
  cases paths with
  | nil => cases h
  | cons first rest =>
    rw [commonParent?_cons, Option.some.injEq] at h
    rw [← h, components_ofComponents_shared, prefix_shared_iff]

theorem commonParent?_of_ne_nil {paths : List String} (h : paths ≠ []) :
    ∃ parent, commonParent? paths = some parent := by
  obtain ⟨first, rest, rfl⟩ := List.exists_cons_of_ne_nil h
  exact ⟨_, rfl⟩

theorem commonParent?_eq_none_iff {paths : List String} :
    commonParent? paths = none ↔ paths = [] := by
  cases paths with
  | nil => exact ⟨fun _ => rfl, fun _ => rfl⟩
  | cons first rest => simp [commonParent?_cons]

/-- Paths have one parent if they begin with the same components. -/
theorem commonParent?_congr {paths others : List String} (hpaths : paths ≠ [])
    (hothers : others ≠ [])
    (h : ∀ parts, (∀ path ∈ paths, parts <+: components path) ↔
      ∀ path ∈ others, parts <+: components path) :
    commonParent? paths = commonParent? others := by
  obtain ⟨first, rest, rfl⟩ := List.exists_cons_of_ne_nil hpaths
  obtain ⟨other, more, rfl⟩ := List.exists_cons_of_ne_nil hothers
  have hshared : shared first rest = shared other more := by
    refine eq_of_prefix_iff fun parts => ?_
    rw [prefix_shared_iff, prefix_shared_iff, h]
  rw [commonParent?_cons, commonParent?_cons, hshared]

/-- Only no paths have no common parent. Its components are the longest with which every path
begins, so it depends on the set of paths alone, and the parent of two lists of paths together is
that of their two parents. -/
theorem commonParent?_longest (paths : List String) :
    (commonParent? paths = none ↔ paths = []) ∧
    (paths ≠ [] → ∃ parent, commonParent? paths = some parent ∧
      (∀ path ∈ paths, components parent <+: components path) ∧
      ∀ parts, (∀ path ∈ paths, parts <+: components path) → parts <+: components parent) ∧
    (∀ others, (∀ path, path ∈ others ↔ path ∈ paths) →
      commonParent? others = commonParent? paths) ∧
    ∀ others, paths ≠ [] → others ≠ [] →
      ∃ first second, commonParent? paths = some first ∧ commonParent? others = some second ∧
        commonParent? (paths ++ others) = commonParent? [first, second] := by
  refine ⟨commonParent?_eq_none_iff, fun hpaths => ?_, fun others hsame => ?_,
    fun others hpaths hothers => ?_⟩
  · obtain ⟨parent, hparent⟩ := commonParent?_of_ne_nil hpaths
    exact ⟨parent, hparent, (prefix_commonParent_iff hparent).mp List.prefix_rfl,
      fun parts => (prefix_commonParent_iff hparent).mpr⟩
  · by_cases hpaths : paths = []
    · have hothers : others = [] := by
        rw [List.eq_nil_iff_forall_not_mem]
        intro path hpath
        rw [hsame, hpaths] at hpath
        cases hpath
      rw [hpaths, hothers]
    · have hothers : others ≠ [] := by
        obtain ⟨path, hpath⟩ := List.exists_mem_of_ne_nil paths hpaths
        exact List.ne_nil_of_mem ((hsame path).mpr hpath)
      refine commonParent?_congr hothers hpaths fun parts => ?_
      simp only [hsame]
  · obtain ⟨first, hfirst⟩ := commonParent?_of_ne_nil hpaths
    obtain ⟨second, hsecond⟩ := commonParent?_of_ne_nil hothers
    have hboth : paths ++ others ≠ [] := List.append_ne_nil_of_left_ne_nil hpaths _
    refine ⟨first, second, hfirst, hsecond,
      commonParent?_congr hboth (List.cons_ne_nil _ _) fun parts => ?_⟩
    rw [List.forall_mem_append, ← prefix_commonParent_iff hfirst,
      ← prefix_commonParent_iff hsecond, List.forall_mem_cons,
      List.forall_mem_singleton]

/-- Paths that are written with blanks between slashes and a step up. -/
theorem commonParent?_longest_dotted :
    ["./a//b/..", "./a/./b/"] ≠ [] ∧ ["./a"] ≠ [] ∧
      commonParent? ["./a//b/..", "./a/./b/"] = some "./a/b" ∧
      components "./a/b" <+: components "./a//b/.." ∧
      commonParent? ["./a/./b/", "./a//b/..", "./a/./b/"] = some "./a/b" ∧
      commonParent? (["./a//b/..", "./a/./b/"] ++ ["./a"]) = commonParent? ["./a/b", "./a"] := by
  have hpaths : ["./a//b/..", "./a/./b/"] ≠ [] := List.cons_ne_nil _ _
  have hothers : ["./a"] ≠ [] := List.cons_ne_nil _ _
  obtain ⟨-, hparent, hset, htogether⟩ := commonParent?_longest ["./a//b/..", "./a/./b/"]
  have hsame (path : String) :
      path ∈ ["./a/./b/", "./a//b/..", "./a/./b/"] ↔ path ∈ ["./a//b/..", "./a/./b/"] := by
    simp [or_comm]
  have hvalue : commonParent? ["./a//b/..", "./a/./b/"] = some "./a/b" := by decide +kernel
  obtain ⟨parent, hsome, hprefix, -⟩ := hparent hpaths
  obtain rfl : "./a/b" = parent := Option.some.inj (hvalue.symm.trans hsome)
  obtain ⟨first, second, hfirst, hsecond, hboth⟩ := htogether ["./a"] hpaths hothers
  obtain rfl : "./a/b" = first := Option.some.inj (hvalue.symm.trans hfirst)
  have hother : commonParent? ["./a"] = some "./a" := by decide +kernel
  obtain rfl : "./a" = second := Option.some.inj (hother.symm.trans hsecond)
  exact ⟨hpaths, hothers, hvalue, hprefix _ List.mem_cons_self, (hset _ hsame).trans hvalue, hboth⟩

end BenchReport.Path
