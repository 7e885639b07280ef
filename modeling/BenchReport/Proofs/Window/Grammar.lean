import BenchReport.Window
import Mathlib.Data.List.TakeWhile

/-!
The grammar of durations: well-formed texts with the milliseconds that they name, and the checks
that a text has to pass, component by component from left to right.
-/
namespace BenchReport.Window

/-- A number in decimal digits with its unit. -/
structure Component where
  digits : List Char
  scale : Scale
  nonempty : digits ≠ []
  numeric (c : Char) (h : c ∈ digits) : c.isDigit = true

namespace Component

def count (part : Component) : Nat := Nat.ofDigitChars 10 part.digits 0

def millis (part : Component) : Nat := part.count * part.scale.millis

def text (part : Component) : List Char := part.digits ++ part.scale.symbol

theorem count_le_millis (part : Component) : part.count ≤ part.millis :=
  Nat.le_mul_of_pos_right _ part.scale.millis_pos

end Component

/-- Components one after the other. -/
def spelling (parts : List Component) : List Char := parts.flatMap Component.text

/-- The milliseconds of components together, without any bound. -/
def total : List Component → Nat
  | [] => 0
  | part :: rest => part.millis + total rest

/-- Every unit is smaller than those before it. -/
def Descending (parts : List Component) : Prop :=
  parts.Pairwise fun a b => b.scale.millis < a.scale.millis

instance (parts : List Component) : Decidable (Descending parts) :=
  inferInstanceAs (Decidable (parts.Pairwise fun a b => b.scale.millis < a.scale.millis))

/-- The well-formed texts, each with the milliseconds that it names. -/
inductive Denotes : List Char → Nat → Prop
  | zero : Denotes ['0'] 0
  | components {parts : List Component} (nonempty : parts ≠ []) (descending : Descending parts) :
      Denotes (spelling parts) (total parts)

/-- The digits that a text begins with. -/
def digitRun (text : List Char) : List Char := text.takeWhile Char.isDigit

def runNumber (text : List Char) : Nat := Nat.ofDigitChars 10 (digitRun text) 0

/-- The letters behind the digits that a text begins with. -/
def letterRun (text : List Char) : List Char := (text.dropWhile Char.isDigit).takeWhile Char.isAlpha

/-- What is left of a text behind its first digits and letters. -/
def afterRuns (text : List Char) : List Char := (text.dropWhile Char.isDigit).dropWhile Char.isAlpha

/-- What is looked at in one component. -/
inductive Check
  | digits | number | unit | product | sum
  deriving DecidableEq

namespace Check

/-- The place of a check in the order in which they are made. -/
def rank : Check → Nat
  | digits => 0
  | number => 1
  | unit => 2
  | product => 3
  | sum => 4

def failure : Check → Failure
  | digits | unit => .invalid
  | number | product | sum => .overflow

/-- The error of a whole text at which a check fails. -/
def error (check : Check) (text : String) : Error :=
  match check.failure with
  | .invalid => .invalid text
  | .overflow => .overflow text

/-- What a check asks of a text that goes on after some components. -/
def Passes (parts : List Component) (rest : List Char) : Check → Prop
  | digits => digitRun rest ≠ []
  | number => runNumber rest ≤ maxMillis
  | unit => ∃ u : Scale, letterRun rest = u.symbol ∧ ∀ part ∈ parts, u.millis < part.scale.millis
  | product => ∀ u : Scale, letterRun rest = u.symbol → runNumber rest * u.millis ≤ maxMillis
  | sum => ∀ u : Scale, letterRun rest = u.symbol →
      total parts + runNumber rest * u.millis ≤ maxMillis

/-- Either all checks have a property, or there is a first that has not. -/
theorem all_or_first (p : Check → Prop) :
    (∀ check, p check) ∨
      ∃ check, ¬p check ∧ ∀ earlier : Check, earlier.rank < check.rank → p earlier := by
  by_cases hall : ∀ check, p check
  · exact .inl hall
  · right
    obtain ⟨check, hcheck⟩ := Classical.not_forall.mp hall
    induction hrank : check.rank using Nat.strongRecOn generalizing check with
    | ind n ih =>
      by_cases hearlier : ∀ earlier : Check, earlier.rank < check.rank → p earlier
      · exact ⟨check, hcheck, hearlier⟩
      · obtain ⟨earlier, hnot⟩ := Classical.not_forall.mp hearlier
        obtain ⟨hlt, hfails⟩ := Classical.not_imp.mp hnot
        exact ih earlier.rank (hrank ▸ hlt) earlier hfails rfl

end Check

/-- Components that a text begins with, each of which passed all checks, and what is left then. No
letter follows a unit, or it would belong to it. -/
inductive Reads (text : List Char) : List Component → List Char → Prop
  | start : Reads text [] text
  | next {parts : List Component} {part : Component} {rest : List Char}
      (before : Reads text parts (part.text ++ rest))
      (ended : ∀ c ∈ rest.head?, c.isAlpha = false)
      (passes : ∀ check : Check, check.Passes parts (part.text ++ rest)) :
      Reads text (parts ++ [part]) rest

/-- The first check that fails when a text is read from left to right. -/
def FirstFails (text : List Char) (check : Check) : Prop :=
  ∃ parts rest, Reads text parts rest ∧ rest ≠ [] ∧ ¬check.Passes parts rest ∧
    ∀ earlier : Check, earlier.rank < check.rank → earlier.Passes parts rest

theorem Scale.symbol_inj {u v : Scale} : u.symbol = v.symbol ↔ u = v := by
  constructor
  · intro h
    cases u <;> cases v <;> first | rfl | exact absurd h (by decide)
  · rintro rfl
    rfl

theorem Scale.symbol_letters (u : Scale) : ∀ c ∈ u.symbol, c.isAlpha = true := by
  have h : u.symbol.all Char.isAlpha = true := by cases u <;> decide
  exact List.all_eq_true.mp h

theorem Scale.symbol_head (u : Scale) : ∃ c more, u.symbol = c :: more ∧ c.isDigit = false := by
  cases u <;> exact ⟨_, _, rfl, by decide⟩

section Runs

variable {rest : List Char}

theorem takeWhile_append {p : Char → Bool} {run rest : List Char} (hrun : ∀ c ∈ run, p c = true)
    (hrest : ∀ c ∈ rest.head?, p c = false) : (run ++ rest).takeWhile p = run := by
  rw [List.takeWhile_append_of_pos hrun]
  cases rest with
  | nil => simp
  | cons c rest => simp [hrest c rfl]

theorem dropWhile_append {p : Char → Bool} {run rest : List Char} (hrun : ∀ c ∈ run, p c = true)
    (hrest : ∀ c ∈ rest.head?, p c = false) : (run ++ rest).dropWhile p = rest := by
  rw [List.dropWhile_append_of_pos hrun]
  cases rest with
  | nil => rfl
  | cons c rest => simp [hrest c rfl]

theorem symbol_append_head (u : Scale) (rest : List Char) :
    ∀ c ∈ (u.symbol ++ rest).head?, c.isDigit = false := by
  obtain ⟨first, more, hsymbol, hfirst⟩ := u.symbol_head
  intro c hc
  rw [hsymbol] at hc
  cases hc
  exact hfirst

theorem digitRun_component (part : Component) (rest : List Char) :
    digitRun (part.text ++ rest) = part.digits := by
  rw [digitRun, Component.text, List.append_assoc]
  exact takeWhile_append part.numeric (symbol_append_head part.scale rest)

theorem runNumber_component (part : Component) (rest : List Char) :
    runNumber (part.text ++ rest) = part.count := by
  rw [runNumber, digitRun_component, Component.count]

theorem dropWhile_component (part : Component) (rest : List Char) :
    (part.text ++ rest).dropWhile Char.isDigit = part.scale.symbol ++ rest := by
  rw [Component.text, List.append_assoc]
  exact dropWhile_append part.numeric (symbol_append_head part.scale rest)

theorem letterRun_component (part : Component) (ended : ∀ c ∈ rest.head?, c.isAlpha = false) :
    letterRun (part.text ++ rest) = part.scale.symbol := by
  rw [letterRun, dropWhile_component]
  exact takeWhile_append part.scale.symbol_letters ended

theorem afterRuns_component (part : Component) (ended : ∀ c ∈ rest.head?, c.isAlpha = false) :
    afterRuns (part.text ++ rest) = rest := by
  rw [afterRuns, dropWhile_component]
  exact dropWhile_append part.scale.symbol_letters ended

/-- A text that begins with digits and the symbol of a unit begins with a component. -/
theorem exists_component {text : List Char} {u : Scale} (hdigits : digitRun text ≠ [])
    (hunit : letterRun text = u.symbol) :
    ∃ part : Component, part.scale = u ∧ text = part.text ++ afterRuns text := by
  have hnumeric : ∀ c ∈ digitRun text, c.isDigit = true := fun c hc => List.mem_takeWhile_imp hc
  refine ⟨⟨digitRun text, u, hdigits, hnumeric⟩, rfl, ?_⟩
  have hletters : letterRun text ++ afterRuns text = text.dropWhile Char.isDigit :=
    List.takeWhile_append_dropWhile
  rw [Component.text, ← hunit, List.append_assoc, hletters]
  exact List.takeWhile_append_dropWhile.symm

theorem afterRuns_ended (text : List Char) : ∀ c ∈ (afterRuns text).head?, c.isAlpha = false := by
  intro c hc
  have hhead := List.head?_dropWhile_not Char.isAlpha (text.dropWhile Char.isDigit)
  rw [afterRuns] at hc
  rw [Option.mem_def.mp hc] at hhead
  simpa using hhead

end Runs

theorem splitComponent_eq (text : List Char) :
    splitComponent text =
      if digitRun text = [] then .error .invalid
      else if maxMillis < runNumber text then .error .overflow
      else .ok (runNumber text, letterRun text, afterRuns text) := by
  simp only [splitComponent, List.isEmpty_iff]
  rfl

end BenchReport.Window
