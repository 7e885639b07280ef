import BenchReport.Query.Template
import Mathlib.Data.List.Basic

/-!
A template falls into literals and placeholders in one way only. Rendering puts every value, as it
is, between the same literals.
-/
namespace BenchReport.Query

/-- A placeholder begins somewhere in a text. -/
def Opens (text : List Char) : Prop := ['$', '\x7b'] <:+: text

instance : DecidablePred Opens := fun text =>
  inferInstanceAs (Decidable (['$', '\x7b'] <:+: text))

/-- The first placeholder that a text begins, if any, is never ended. -/
def Unended (text : List Char) : Prop :=
  ∀ before after, text = before ++ '$' :: '\x7b' :: after → ¬Opens before → '\x7d' ∉ after

/-- A placeholder as it is written. -/
def placeholder (key : List Char) : List Char := '$' :: '\x7b' :: (key ++ ['\x7d'])

/-- The value of the first binding of a name, or the placeholder of the name. -/
def Bindings.valueOrPlaceholder (bindings : Bindings) (key : List Char) : List Char :=
  match bindings.find? fun binding => binding.1.toList = key with
  | some binding => binding.2.toList
  | none => placeholder key

/-- A literal and the key of the placeholder after it. -/
structure Slot where
  literal : List Char
  key : List Char

/-- Literals with placeholders between them: the last literal has none after it. -/
structure Decomposition where
  slots : List Slot
  last : List Char

namespace Decomposition

/-- The literals with a text for each key between them. -/
def fillIn (d : Decomposition) (value : List Char → List Char) : List Char :=
  (d.slots.flatMap fun slot => slot.literal ++ value slot.key) ++ d.last

/-- A text is made of these literals and placeholders: a literal before a placeholder begins none
itself, a key has no closing brace, and what the last literal begins is never ended. -/
structure Of (d : Decomposition) (text : List Char) : Prop where
  written : d.fillIn placeholder = text
  literal : ∀ slot ∈ d.slots, ¬Opens slot.literal
  key : ∀ slot ∈ d.slots, '\x7d' ∉ slot.key
  last : Unended d.last

end Decomposition

variable {bindings : Bindings} {text key before after : List Char}

theorem fill_eq_valueOrPlaceholder (bindings : Bindings) (key : List Char) :
    bindings.fill key = bindings.valueOrPlaceholder key := by
  induction bindings with
  | nil => rfl
  | cons binding rest ih =>
    unfold Bindings.fill Bindings.valueOrPlaceholder at ih ⊢
    by_cases h : binding.1.toList = key
    · simp [Bindings.value?, h]
    · simp only [Bindings.value?, if_neg h]
      rw [ih, List.find?_cons_of_neg (by simpa using h)]

theorem not_opens_nil : ¬Opens [] := by simp [Opens]

theorem opens_append (before after : List Char) : Opens (before ++ '$' :: '\x7b' :: after) :=
  ⟨before, after, by simp⟩

theorem opens_cons_iff {c : Char} :
    Opens (c :: text) ↔ (∃ after, c :: text = '$' :: '\x7b' :: after) ∨ Opens text := by
  rw [Opens, List.infix_cons_iff]
  refine or_congr_left ⟨?_, ?_⟩
  · rintro ⟨after, hafter⟩
    exact ⟨after, hafter.symm⟩
  · rintro ⟨after, hafter⟩
    exact ⟨after, hafter.symm⟩

/-- A text that begins a placeholder has a first place where it does. -/
theorem Opens.exists_first (h : Opens text) :
    ∃ before after, text = before ++ '$' :: '\x7b' :: after ∧ ¬Opens before := by
  induction text with
  | nil => exact absurd h not_opens_nil
  | cons c rest ih =>
    by_cases hhere : ∃ after, c :: rest = '$' :: '\x7b' :: after
    · obtain ⟨after, hafter⟩ := hhere
      exact ⟨[], after, hafter, not_opens_nil⟩
    · obtain ⟨before, after, rfl, hbefore⟩ := ih ((opens_cons_iff.mp h).resolve_left hhere)
      refine ⟨c :: before, after, rfl, fun hopens => ?_⟩
      rcases opens_cons_iff.mp hopens with ⟨more, hmore⟩ | hopens
      · refine hhere ⟨more ++ '$' :: '\x7b' :: after, ?_⟩
        rw [← List.cons_append, hmore]
        rfl
      · exact hbefore hopens

/-- Before an opening that stands later there is something that opens too. -/
theorem opens_of_later {c : Char} {rest : List Char}
    (h : '$' :: '\x7b' :: after = c :: rest ++ '$' :: '\x7b' :: before) : Opens (c :: rest) := by
  cases rest with
  | nil => simp at h
  | cons d rest =>
    simp only [List.cons_append, List.cons.injEq] at h
    obtain ⟨rfl, rfl, -⟩ := h
    exact opens_append [] rest

theorem first_opening_unique {before' after' : List Char}
    (h : before ++ '$' :: '\x7b' :: after = before' ++ '$' :: '\x7b' :: after')
    (hbefore : ¬Opens before) (hbefore' : ¬Opens before') : before = before' ∧ after = after' := by
  induction before generalizing before' with
  | nil =>
    cases before' with
    | nil => simpa using h
    | cons c rest => exact absurd (opens_of_later h) hbefore'
  | cons c rest ih =>
    cases before' with
    | nil => exact absurd (opens_of_later h.symm) hbefore
    | cons c' rest' =>
      rw [List.cons_append, List.cons_append, List.cons.injEq] at h
      obtain ⟨rfl, hrest⟩ := h
      rw [opens_cons_iff, not_or] at hbefore hbefore'
      obtain ⟨hsame, hafter⟩ := ih hrest hbefore.2 hbefore'.2
      exact ⟨congrArg (c :: ·) hsame, hafter⟩

theorem unended_append (hbefore : ¬Opens before) (hafter : '\x7d' ∉ after) :
    Unended (before ++ '$' :: '\x7b' :: after) := by
  intro before' after' h hbefore'
  rwa [← (first_opening_unique h hbefore hbefore').2]

theorem first_brace_unique {key' after' : List Char}
    (h : key ++ '\x7d' :: after = key' ++ '\x7d' :: after') (hkey : '\x7d' ∉ key)
    (hkey' : '\x7d' ∉ key') : key = key' ∧ after = after' := by
  have hrun (key after : List Char) (hkey : '\x7d' ∉ key) :
      (key ++ '\x7d' :: after).takeWhile (· ≠ '\x7d') = key := by
    have hall : ∀ c ∈ key, decide (c ≠ '\x7d') = true := by
      intro c hc
      apply decide_eq_true
      rintro rfl
      exact hkey hc
    rw [List.takeWhile_append_of_pos hall, List.takeWhile_cons_of_neg (by decide), List.append_nil]
  have hsame : key = key' := by rw [← hrun key after hkey, h, hrun key' after' hkey']
  subst hsame
  exact ⟨rfl, (List.cons.inj (List.append_cancel_left h)).2⟩

namespace Decomposition

variable {d other : Decomposition} {slot : Slot} {slots : List Slot} {last : List Char}

theorem fillIn_cons (slot : Slot) (slots : List Slot) (last : List Char)
    (value : List Char → List Char) :
    fillIn ⟨slot :: slots, last⟩ value =
      slot.literal ++ (value slot.key ++ fillIn ⟨slots, last⟩ value) := by
  rw [fillIn, List.flatMap_cons, List.append_assoc, List.append_assoc]
  rfl

theorem fillIn_congr {value value' : List Char → List Char}
    (h : ∀ slot ∈ d.slots, value slot.key = value' slot.key) :
    d.fillIn value = d.fillIn value' := by
  have hparts : (d.slots.flatMap fun slot => slot.literal ++ value slot.key) =
      d.slots.flatMap fun slot => slot.literal ++ value' slot.key :=
    List.flatMap_congr fun slot hslot => by rw [h slot hslot]
  rw [fillIn, fillIn, hparts]

/-- A text with a placeholder up front is that placeholder and a text without it. -/
theorem of_cons_iff :
    Of ⟨slot :: slots, last⟩ text ↔
      ∃ after, text = slot.literal ++ '$' :: '\x7b' :: (slot.key ++ '\x7d' :: after) ∧
        ¬Opens slot.literal ∧ '\x7d' ∉ slot.key ∧ Of ⟨slots, last⟩ after := by
  constructor
  · intro h
    refine ⟨fillIn ⟨slots, last⟩ placeholder, ?_, h.literal slot List.mem_cons_self,
      h.key slot List.mem_cons_self, rfl, fun p hp => h.literal p (List.mem_cons_of_mem _ hp),
      fun p hp => h.key p (List.mem_cons_of_mem _ hp), h.last⟩
    rw [← h.written, fillIn_cons]
    simp [placeholder]
  · rintro ⟨after, rfl, hliteral, hkey, hafter⟩
    refine ⟨?_, ?_, ?_, hafter.last⟩
    · rw [fillIn_cons, hafter.written]
      simp [placeholder]
    · exact List.forall_mem_cons.mpr ⟨hliteral, hafter.literal⟩
    · exact List.forall_mem_cons.mpr ⟨hkey, hafter.key⟩

theorem of_nil_iff : Of ⟨[], last⟩ text ↔ last = text ∧ Unended last := by
  constructor
  · intro h
    exact ⟨h.written, h.last⟩
  · rintro ⟨rfl, hlast⟩
    exact ⟨rfl, List.forall_mem_nil _, List.forall_mem_nil _, hlast⟩

theorem Of.unique (h : d.Of text) (h' : other.Of text) : d = other := by
  obtain ⟨slots, last⟩ := d
  obtain ⟨slots', last'⟩ := other
  induction slots generalizing slots' text with
  | nil =>
    obtain ⟨rfl, hunended⟩ := of_nil_iff.mp h
    cases slots' with
    | nil => rw [(of_nil_iff.mp h').1]
    | cons slot' rest' =>
      obtain ⟨after, hwritten, hliteral, -, -⟩ := of_cons_iff.mp h'
      exact absurd (List.mem_append_right _ List.mem_cons_self) (hunended _ _ hwritten hliteral)
  | cons slot rest ih =>
    obtain ⟨after, rfl, hliteral, hkey, hafter⟩ := of_cons_iff.mp h
    cases slots' with
    | nil =>
      obtain ⟨rfl, hunended⟩ := of_nil_iff.mp h'
      exact absurd (List.mem_append_right _ List.mem_cons_self) (hunended _ _ rfl hliteral)
    | cons slot' rest' =>
      obtain ⟨after', hwritten, hliteral', hkey', hafter'⟩ := of_cons_iff.mp h'
      obtain ⟨hsame, hopened⟩ := first_opening_unique hwritten hliteral hliteral'
      obtain ⟨hsameKey, rfl⟩ := first_brace_unique hopened hkey hkey'
      obtain ⟨rfl, rfl⟩ := mk.inj (ih hafter rest' hafter')
      have hslot : slot = slot' := congrArg₂ Slot.mk hsame hsameKey
      rw [hslot]

theorem exists_of (text : List Char) : ∃ d : Decomposition, d.Of text := by
  -- Each placeholder that is taken off leaves a shorter text.
  induction hlength : text.length using Nat.strongRecOn generalizing text with
  | _ length ih =>
    by_cases hunended : Unended text
    · exact ⟨⟨[], text⟩, of_nil_iff.mpr ⟨rfl, hunended⟩⟩
    · unfold Unended at hunended
      push Not at hunended
      obtain ⟨literal, opened, rfl, hliteral, hbrace⟩ := hunended
      obtain ⟨key, after, rfl, hkey⟩ := List.eq_append_cons_of_mem hbrace
      have hshorter : after.length < length := by
        rw [← hlength]
        simp only [List.length_append, List.length_cons]
        omega
      obtain ⟨⟨slots, last⟩, hafter⟩ := ih after.length hshorter after rfl
      exact ⟨⟨⟨literal, key⟩ :: slots, last⟩,
        of_cons_iff.mpr ⟨after, rfl, hliteral, hkey, hafter⟩⟩

end Decomposition

namespace Template

theorem expand_cons {c : Char} (h : ¬∃ after, c :: text = '$' :: '\x7b' :: after) :
    expand bindings (c :: text) = c :: expand bindings text := by
  rw [expand]
  rintro after rfl rfl
  exact h ⟨after, rfl⟩

theorem expand_append (h : ¬Opens before) (after : List Char) :
    expand bindings (before ++ '$' :: '\x7b' :: after) =
      before ++ expandKey bindings [] after := by
  induction before with
  | nil => rw [List.nil_append, List.nil_append, expand]
  | cons c rest ih =>
    have hhere : ¬∃ more, c :: (rest ++ '$' :: '\x7b' :: after) = '$' :: '\x7b' :: more := by
      rintro ⟨more, hmore⟩
      exact h (opens_of_later hmore.symm)
    rw [List.cons_append, expand_cons hhere, ih fun hrest => h (opens_cons_iff.mpr (.inr hrest)),
      List.cons_append]

theorem expand_of_not_opens (h : ¬Opens text) : expand bindings text = text := by
  induction text with
  | nil => rw [expand]
  | cons c rest ih =>
    rw [opens_cons_iff, not_or] at h
    rw [expand_cons h.1, ih h.2]

theorem expandKey_append (h : '\x7d' ∉ key) (name after : List Char) :
    expandKey bindings name (key ++ '\x7d' :: after) =
      bindings.fill (name.reverse ++ key) ++ expand bindings after := by
  induction key generalizing name with
  | nil => rw [List.nil_append, expandKey, if_pos rfl, List.append_nil]
  | cons c rest ih =>
    rw [List.mem_cons, not_or] at h
    rw [List.cons_append, expandKey, if_neg (Ne.symm h.1), ih h.2, List.reverse_cons,
      List.append_assoc, List.singleton_append]

theorem expandKey_of_not_mem (h : '\x7d' ∉ text) (name : List Char) :
    expandKey bindings name text = '$' :: '\x7b' :: (name.reverse ++ text) := by
  induction text generalizing name with
  | nil => rw [expandKey, List.append_nil]
  | cons c rest ih =>
    rw [List.mem_cons, not_or] at h
    rw [expandKey, if_neg (Ne.symm h.1), ih h.2, List.reverse_cons, List.append_assoc,
      List.singleton_append]

theorem expand_of_unended (h : Unended text) : expand bindings text = text := by
  by_cases hopens : Opens text
  · obtain ⟨before, after, rfl, hbefore⟩ := hopens.exists_first
    rw [expand_append hbefore, expandKey_of_not_mem (h before after rfl hbefore)]
    rfl
  · exact expand_of_not_opens hopens

/-- Scanning a text fills in the keys of its decomposition. -/
theorem expand_of {d : Decomposition} (h : d.Of text) :
    expand bindings text = d.fillIn bindings.fill := by
  obtain ⟨slots, last⟩ := d
  induction slots generalizing text with
  | nil =>
    obtain ⟨rfl, hunended⟩ := Decomposition.of_nil_iff.mp h
    exact expand_of_unended hunended
  | cons slot rest ih =>
    obtain ⟨after, rfl, hliteral, hkey, hafter⟩ := Decomposition.of_cons_iff.mp h
    rw [expand_append hliteral, expandKey_append hkey, ih hafter, Decomposition.fillIn_cons]
    rfl

/-- Rendering puts the value of the first variable of each name, whatever it contains, between the
literals of the only decomposition of a template; where there is no such variable the placeholder
stays. Where none of the names has one the text stays. -/
theorem render_eq_fillIn (template : Template) :
    (∃! d : Decomposition, d.Of template.text.toList) ∧
      ∀ d : Decomposition, d.Of template.text.toList → ∀ bindings : Bindings,
        template.render bindings = String.ofList (d.fillIn bindings.valueOrPlaceholder) ∧
          ((∀ slot ∈ d.slots, ∀ binding ∈ bindings, binding.1.toList ≠ slot.key) →
            template.render bindings = template.text) := by
  constructor
  · obtain ⟨d, hd⟩ := Decomposition.exists_of template.text.toList
    exact ⟨d, hd, fun other hother => hother.unique hd⟩
  · intro d hd bindings
    have hrender : template.render bindings =
        String.ofList (d.fillIn bindings.valueOrPlaceholder) := by
      rw [render, expand_of hd, funext (fill_eq_valueOrPlaceholder bindings)]
    refine ⟨hrender, fun hunbound => ?_⟩
    have hkept : ∀ slot ∈ d.slots, bindings.valueOrPlaceholder slot.key = placeholder slot.key := by
      intro slot hslot
      have hnone : bindings.find? (fun binding => binding.1.toList = slot.key) = none := by
        simpa using hunbound slot hslot
      simp only [Bindings.valueOrPlaceholder, hnone]
    rw [hrender, Decomposition.fillIn_congr hkept, hd.written, String.ofList_toList]

/-- Two placeholders, of which the second has an opening in its key, and a third without an end. -/
def nestedTemplate : Template where
  text := "$$\x7ba\x7d$\x7ba$\x7bb\x7d\x7d$\x7bc"

def nestedDecomposition : Decomposition where
  slots := [⟨['$'], ['a']⟩, ⟨[], ['a', '$', '\x7b', 'b']⟩]
  last := ['\x7d', '$', '\x7b', 'c']

/-- A value that looks like a placeholder, before another value for its name. -/
def nestedBindings : Bindings := [("a", "$\x7bb\x7d"), ("b", "no"), ("a$\x7bb", "yes"), ("a", "no")]

theorem render_nestedTemplate :
    nestedDecomposition.Of nestedTemplate.text.toList ∧
      nestedTemplate.render nestedBindings = "$$\x7bb\x7dyes\x7d$\x7bc" ∧
        nestedTemplate.render [("b", "no"), ("c", "no")] = nestedTemplate.text := by
  have hof : nestedDecomposition.Of nestedTemplate.text.toList := by
    have hlast : Unended (['\x7d'] ++ '$' :: '\x7b' :: ['c']) :=
      unended_append (by decide) (by decide)
    exact ⟨by decide, by decide, by decide, hlast⟩
  have hrender := (render_eq_fillIn nestedTemplate).2 nestedDecomposition hof
  refine ⟨hof, (hrender nestedBindings).1.trans (by decide), (hrender _).2 (by decide)⟩

end Template

end BenchReport.Query
