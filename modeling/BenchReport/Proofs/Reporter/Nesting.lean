import BenchReport.Reporter.Fanout

/-!
Reporters nested in groups of any depth. A run reaches the leaves as it would reach them in one
flat group: hook by hook, and for every hook each leaf once, from left to right.
-/
namespace BenchReport

namespace Fanout

variable {ρ σ τ : Type}

/-- Tells the reporters of a tree about hooks in turn. -/
def run (act : Hook → ρ → σ → ρ × σ) (tree : Fanout ρ) (state : σ) : List Hook → Fanout ρ × σ
  | [] => (tree, state)
  | hook :: rest =>
    let (tree, state) := tree.notify act hook state
    run act tree state rest

/-- One group of reporters. -/
def flat (reporters : List ρ) : Fanout ρ := .group (reporters.map .leaf)

/-- Tells each reporter of a list about a hook, from the first to the last. -/
def tell (act : Hook → ρ → σ → ρ × σ) (hook : Hook) : List ρ → σ → List ρ × σ
  | [], state => ([], state)
  | first :: rest, state =>
    let (first, state) := act hook first state
    let (rest, state) := tell act hook rest state
    (first :: rest, state)

/-- Tells the reporters of a list about hooks in turn. -/
def tellAll (act : Hook → ρ → σ → ρ × σ) (reporters : List ρ) (state : σ) :
    List Hook → List ρ × σ
  | [] => (reporters, state)
  | hook :: rest =>
    let (reporters, state) := tell act hook reporters state
    tellAll act reporters state rest

/-- Nobody to tell, nothing to do. -/
@[simp] theorem tellAll_nil (act : Hook → ρ → σ → ρ × σ) (state : σ) (hooks : List Hook) :
    tellAll act [] state hooks = ([], state) := by
  induction hooks with
  | nil => rfl
  | cons hook rest ih => simpa [tellAll, tell] using ih

section

variable (act : Hook → ρ → σ → ρ × σ) (hook : Hook)

theorem tell_append (first second : List ρ) (state : σ) :
    tell act hook (first ++ second) state =
      let (first, state) := tell act hook first state
      let (second, state) := tell act hook second state
      (first ++ second, state) := by
  induction first generalizing state with
  | nil => rfl
  | cons reporter rest ih => simp [tell, ih]

mutual

theorem notify_leaves (tree : Fanout ρ) (state : σ) :
    tell act hook tree.leaves state =
      ((tree.notify act hook state).1.leaves, (tree.notify act hook state).2) := by
  cases tree with
  | leaf reporter => rfl
  | group members => simpa [leaves, notify] using notifyAll_leaves members state
termination_by structural tree

theorem notifyAll_leaves (trees : List (Fanout ρ)) (state : σ) :
    tell act hook (leavesOf trees) state =
      (leavesOf (notifyAll act hook trees state).1, (notifyAll act hook trees state).2) := by
  cases trees with
  | nil => rfl
  | cons first rest =>
    have hfirst := notify_leaves first state
    have hrest := notifyAll_leaves rest (first.notify act hook state).2
    simp [leavesOf, notifyAll, tell_append, hfirst, hrest]
termination_by structural trees

end

theorem run_leaves (tree : Fanout ρ) (state : σ) (hooks : List Hook) :
    tellAll act tree.leaves state hooks =
      ((tree.run act state hooks).1.leaves, (tree.run act state hooks).2) := by
  induction hooks generalizing tree state with
  | nil => rfl
  | cons hook rest ih => simp [run, tellAll, notify_leaves, ih]

end

@[simp] theorem leaves_flat (reporters : List ρ) : (flat reporters).leaves = reporters := by
  have hrow : leavesOf (reporters.map Fanout.leaf) = reporters := by
    induction reporters with
    | nil => rfl
    | cons first rest ih => simp [leavesOf, leaves, ih]
  simpa [flat, leaves] using hrow

mutual

/-- A tree of the same shape with other reporters. -/
def map (f : ρ → τ) : Fanout ρ → Fanout τ
  | .leaf reporter => .leaf (f reporter)
  | .group members => .group (mapAll f members)
termination_by structural tree => tree

def mapAll (f : ρ → τ) : List (Fanout ρ) → List (Fanout τ)
  | [] => []
  | first :: rest => first.map f :: mapAll f rest
termination_by structural trees => trees

end

mutual

@[simp] theorem leaves_map (f : ρ → τ) (tree : Fanout ρ) :
    (tree.map f).leaves = tree.leaves.map f := by
  cases tree with
  | leaf reporter => rfl
  | group members => simpa [map, leaves] using leavesOf_mapAll f members
termination_by structural tree

theorem leavesOf_mapAll (f : ρ → τ) (trees : List (Fanout ρ)) :
    leavesOf (mapAll f trees) = (leavesOf trees).map f := by
  cases trees with
  | nil => rfl
  | cons first rest => simp [mapAll, leavesOf, leaves_map f first, leavesOf_mapAll f rest]
termination_by structural trees

end

/-- Reporters under tags, with a record of who was told about what. -/
def recording (act : Hook → ρ → σ → ρ × σ) (hook : Hook) (tagged : τ × ρ)
    (state : σ × List (τ × Hook)) : (τ × ρ) × (σ × List (τ × Hook)) :=
  let (reporter, after) := act hook tagged.2 state.1
  ((tagged.1, reporter), (after, state.2 ++ [(tagged.1, hook)]))

theorem tell_recording (act : Hook → ρ → σ → ρ × σ) (hook : Hook) (tagged : List (τ × ρ))
    (state : σ) (calls : List (τ × Hook)) :
    let plain := tell act hook (tagged.map Prod.snd) state
    let told := tell (recording act) hook tagged (state, calls)
    told.1.map Prod.fst = tagged.map Prod.fst ∧ told.1.map Prod.snd = plain.1 ∧
      told.2 = (plain.2, calls ++ tagged.map fun reporter => (reporter.1, hook)) := by
  induction tagged generalizing state calls with
  | nil => simp [tell]
  | cons first rest ih =>
    obtain ⟨htags, hreporters, hstate⟩ :=
      ih (act hook first.2 state).2 (calls ++ [(first.1, hook)])
    simp [tell, recording, htags, hreporters, hstate]

/-- Recording changes nothing, and finds every reporter told about every hook in turn. -/
theorem tellAll_recording (act : Hook → ρ → σ → ρ × σ) (tagged : List (τ × ρ)) (state : σ)
    (calls : List (τ × Hook)) (hooks : List Hook) :
    (tellAll (recording act) tagged (state, calls) hooks).2 =
      ((tellAll act (tagged.map Prod.snd) state hooks).2,
        calls ++ hooks.flatMap fun hook => (tagged.map Prod.fst).map fun tag => (tag, hook)) := by
  induction hooks generalizing tagged state calls with
  | nil => simp [tellAll]
  | cons hook rest ih =>
    obtain ⟨htags, hreporters, hstate⟩ := tell_recording act hook tagged state calls
    simp only [tellAll, hstate, ih, htags, hreporters]
    simp [Function.comp_def]

/-- However reporters are nested, a run leaves them and the state as one flat group of the leaves
does. It tells every leaf about each hook once, in the order of the hooks, and all leaves about a
hook, from left to right, before the next one. -/
theorem run_eq_flat (act : Hook → ρ → σ → ρ × σ) (state : σ) (hooks : List Hook) :
    (∀ tree : Fanout ρ,
      let nested := tree.run act state hooks
      let side := (flat tree.leaves).run act state hooks
      nested.1.leaves = side.1.leaves ∧ nested.2 = side.2) ∧
    ∀ tree : Fanout (τ × ρ),
      (tree.run (recording act) (state, []) hooks).2 =
        (((tree.map Prod.snd).run act state hooks).2,
          hooks.flatMap fun hook => tree.leaves.map fun reporter => (reporter.1, hook)) := by
  constructor
  · intro tree nested side
    have hnested := run_leaves act tree state hooks
    have hside := run_leaves act (flat tree.leaves) state hooks
    rw [leaves_flat, hnested, Prod.mk.injEq] at hside
    exact hside
  · intro tree
    have htold := run_leaves (recording act) tree (state, []) hooks
    have hplain := run_leaves act (tree.map Prod.snd) state hooks
    have hcalls := tellAll_recording act tree.leaves state [] hooks
    rw [leaves_map] at hplain
    rw [htold, hplain] at hcalls
    simpa [Function.comp_def] using hcalls

end Fanout

/-- A run of reporters is a run of the tree that they form. -/
theorem Reporters.run_eq (reporters : Reporters) (world : World) (hooks : List Hook) :
    reporters.run world hooks = Fanout.run Reporter.act reporters world hooks := by
  induction hooks generalizing reporters world with
  | nil => rfl
  | cons hook rest ih => exact ih _ _

end BenchReport
