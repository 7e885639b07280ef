import BenchReport.Reporter.Csv
import BenchReport.Reporter.Experiment

/-! Reporters side by side: every hook goes to each of them in order, however they are nested. -/
namespace BenchReport

/-- A tree of reporters. -/
inductive Fanout (ρ : Type)
  | leaf (reporter : ρ)
  | group (members : List (Fanout ρ))

namespace Fanout

variable {ρ σ : Type}

mutual

def leaves : Fanout ρ → List ρ
  | .leaf reporter => [reporter]
  | .group members => leavesOf members
termination_by structural tree => tree

def leavesOf : List (Fanout ρ) → List ρ
  | [] => []
  | first :: rest => first.leaves ++ leavesOf rest
termination_by structural trees => trees

end

mutual

/-- Tells every reporter of the tree about a hook, given how one reporter acts on it. -/
def notify (act : Hook → ρ → σ → ρ × σ) (hook : Hook) : Fanout ρ → σ → Fanout ρ × σ
  | .leaf reporter, state =>
    let (reporter, state) := act hook reporter state
    (.leaf reporter, state)
  | .group members, state =>
    let (members, state) := notifyAll act hook members state
    (.group members, state)
termination_by structural tree => tree

/-- Tells the reporters of several trees, one tree after the other. -/
def notifyAll (act : Hook → ρ → σ → ρ × σ) (hook : Hook) :
    List (Fanout ρ) → σ → List (Fanout ρ) × σ
  | [], state => ([], state)
  | first :: rest, state =>
    let (first, state) := notify act hook first state
    let (rest, state) := notifyAll act hook rest state
    (first :: rest, state)
termination_by structural trees => trees

end

def size : Fanout ρ → Nat
  | .leaf _ => 1
  | .group members => members.length

end Fanout

/-- A reporter: one of those that write files, one that does nothing, or an observer that notes
every hook under its tag. -/
inductive Reporter
  | csv (reporter : CsvReporter)
  | experiment (reporter : ExperimentReporter)
  | quiet
  | observer (tag : String)

namespace Reporter

def note : Hook → String
  | .suiteWillBegin suite => "suite_will_begin:" ++ suite.description
  | .beforeSuiteDidRun setup => "before_suite_did_run:" ++ toString setup.passed
  | .specWillRun spec => "spec_will_run:" ++ spec.text
  | .specDidComplete spec => "spec_did_complete:" ++ spec.text
  | .afterSuiteDidRun setup => "after_suite_did_run:" ++ toString setup.passed
  | .suiteDidEnd suite => "suite_did_end:" ++ suite.description

def act (hook : Hook) (reporter : Reporter) (world : World) : Reporter × World :=
  match reporter with
  | csv r => (csv r, r.notify hook world)
  | experiment r =>
    let (r, world) := r.notify hook world
    (experiment r, world)
  | quiet => (quiet, world)
  | observer tag => (observer tag, { world with notes := world.notes ++ [tag ++ ":" ++ note hook] })

end Reporter

/-- Reporters side by side. -/
abbrev Reporters := Fanout Reporter

namespace Reporters

def notify (reporters : Reporters) (hook : Hook) (world : World) : Reporters × World :=
  Fanout.notify Reporter.act hook reporters world

def run (reporters : Reporters) (world : World) : List Hook → Reporters × World
  | [] => (reporters, world)
  | hook :: rest =>
    let (reporters, world) := Reporters.notify reporters hook world
    run reporters world rest

end Reporters

end BenchReport
