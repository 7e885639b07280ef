import BenchReport.Proofs.Experiment.Codec
import BenchReport.Proofs.Text.ByteOrder
import Mathlib.Data.List.Induction

/-!
What an experiment reporter has collected after any hooks, and so what the file it writes at the
end of a suite is read as. Between hooks anyone may change the files, so a write may fail.
-/
namespace BenchReport

/-- The series of a spec in the order of the bytes of their names. -/
def Spec.inByteOrder (spec : Spec) : List Series :=
  (spec.measurements.entries.mergeSort fun a b => Text.bytes a.1 ≤ Text.bytes b.1).map (·.2)

theorem Spec.inByteOrder_eq (spec : Spec) : spec.inByteOrder = spec.measurements.values := by
  have hsorted : spec.measurements.entries.Pairwise fun a b =>
      decide (Text.bytes a.1 ≤ Text.bytes b.1) = true := by
    apply spec.measurements.sorted.imp
    intro a b hlt
    have hbytes := (Text.bytes_lt_iff a.1 b.1).mpr hlt
    exact decide_eq_true (List.le_of_lt hbytes)
  rw [inByteOrder, List.mergeSort_of_pairwise hsorted, NameMap.values]

/-- What happens around a reporter: a hook reaches it, or someone else changes the files. -/
inductive Happening
  | hook (hook : Hook)
  | change (files : FileTree)

namespace Happening

/-- Whether a suite begins. -/
def begins : Happening → Bool
  | .hook (.suiteWillBegin _) => true
  | _ => false

/-- The spec that completes. -/
def completed? : Happening → Option Spec
  | .hook (.specDidComplete spec) => some spec
  | _ => none

/-- What happened since a suite last began, or since the start if none did. -/
def sinceBegin (past : List Happening) : List Happening :=
  (past.reverse.takeWhile fun happening => !happening.begins).reverse

/-- The series of the specs that completed since a suite last began, spec by spec. -/
def recorded (past : List Happening) : List Series :=
  ((sinceBegin past).filterMap completed?).flatMap Spec.inByteOrder

theorem sinceBegin_concat (past : List Happening) (now : Happening) :
    sinceBegin (past ++ [now]) = if now.begins then [] else sinceBegin past ++ [now] := by
  unfold sinceBegin
  rw [List.reverse_append, List.reverse_singleton, List.singleton_append, List.takeWhile_cons]
  cases now.begins with
  | true => rfl
  | false => exact List.reverse_cons

theorem recorded_concat (past : List Happening) (now : Happening) :
    recorded (past ++ [now]) =
      if now.begins then []
      else recorded past ++ now.completed?.toList.flatMap Spec.inByteOrder := by
  unfold recorded
  rw [sinceBegin_concat]
  cases now.begins with
  | true => rfl
  | false =>
    have hlast : [now].filterMap completed? = now.completed?.toList := by
      cases h : now.completed? with
      | none => simp [h]
      | some spec => simp [h]
    simp only [Bool.false_eq_true, if_false, List.filterMap_append, List.flatMap_append, hlast]

end Happening

namespace ExperimentReporter

/-- A reporter and its world after one happening. -/
def step (state : ExperimentReporter × World) : Happening → ExperimentReporter × World
  | .hook hook => state.1.notify hook state.2
  | .change files => (state.1, { state.2 with files := files })

/-- A reporter and its world after happenings in turn. -/
def live (state : ExperimentReporter × World) (past : List Happening) :
    ExperimentReporter × World :=
  past.foldl step state

theorem live_concat (state : ExperimentReporter × World) (past : List Happening)
    (now : Happening) : live state (past ++ [now]) = step (live state past) now := by
  rw [live, live, List.foldl_append, List.foldl_cons, List.foldl_nil]

theorem notify_suiteDidEnd (reporter : ExperimentReporter) (suite : Suite) (world : World) :
    (reporter.notify (.suiteDidEnd suite) world).1 = reporter := by
  rw [notify]
  split
  · rfl
  · rfl

/-- One happening empties the collection, adds the series of a spec, or leaves it. -/
theorem step_reporter (reporter : ExperimentReporter) (world : World) (now : Happening) :
    (step (reporter, world) now).1 =
      { reporter with
        measurements :=
          if now.begins then []
          else reporter.measurements ++ now.completed?.toList.flatMap Spec.inByteOrder } := by
  have hkept : reporter = { reporter with measurements := reporter.measurements ++ [] } := by
    rw [List.append_nil]
  cases now with
  | change files => exact hkept
  | hook hook =>
    cases hook with
    | suiteWillBegin suite => rfl
    | beforeSuiteDidRun setup => exact hkept
    | specWillRun spec => exact hkept
    | specDidComplete spec =>
      have hone : (some spec).toList.flatMap Spec.inByteOrder = spec.measurements.values := by
        rw [Option.toList_some, List.flatMap_singleton, Spec.inByteOrder_eq]
      show ({ reporter with
        measurements := reporter.measurements ++ spec.measurements.values } : ExperimentReporter) =
          { reporter with
            measurements :=
              reporter.measurements ++ (some spec).toList.flatMap Spec.inByteOrder }
      rw [hone]
    | afterSuiteDidRun setup => exact hkept
    | suiteDidEnd suite => exact (notify_suiteDidEnd reporter suite world).trans hkept

/-- After any happenings the reporter holds the series recorded since a suite last began. -/
theorem live_reporter (dir : String) (world : World) (past : List Happening) :
    (live (new dir, world) past).1 = ⟨dir, Happening.recorded past⟩ := by
  -- The newest happening decides whether the collection is emptied, so it is taken off first.
  induction past using List.reverseRecOn with
  | nil => rfl
  | append_singleton past now ih =>
    rw [live_concat, Happening.recorded_concat]
    exact (step_reporter (live (new dir, world) past).1 (live (new dir, world) past).2 now).trans
      (by rw [ih])

/-- Whatever happened before, the end of a suite either writes a file that is read as the one
experiment of the specs completed since a suite last began, or leaves the files as they are; the
collection stays in both cases. -/
theorem suiteDidEnd_file (dir : String) (world : World) (past : List Happening) (suite : Suite) :
    let now := live (new dir, world) past
    let ended := now.1.notify (.suiteDidEnd suite) now.2
    let path := Path.join dir Experiment.fileName
    let experiment : Experiment := ⟨suite.description, Happening.recorded past⟩
    ended.1 = now.1 ∧
      ((∃ files, now.2.files.writeText path (Experiment.fileJson [experiment]).prettyText =
            .ok files ∧
          ended.2 = { now.2 with files := files }.tell
            (.wroteExperiment path (Happening.recorded past).length) ∧
          Experiment.load ended.2.files path = .ok [experiment]) ∨
        (∃ e, now.2.files.writeText path (Experiment.fileJson [experiment]).prettyText =
            .error e ∧
          ended.2 = now.2.tell (.skippedExperiment path))) := by
  intro now ended path experiment
  have hreporter : now.1 = ⟨dir, Happening.recorded past⟩ := live_reporter dir world past
  refine ⟨notify_suiteDidEnd now.1 suite now.2, ?_⟩
  have hended : ended = (ExperimentReporter.mk dir (Happening.recorded past)).notify
      (.suiteDidEnd suite) now.2 := by rw [← hreporter]
  rw [hended]
  unfold notify
  cases hwrite : now.2.files.writeText path (Experiment.fileJson [experiment]).prettyText with
  | error e =>
    right
    refine ⟨e, rfl, ?_⟩
    simp only [outputPath, fileText, path, experiment] at hwrite ⊢
    rw [hwrite]
  | ok files =>
    left
    have hread := Experiment.load_writeText hwrite
    refine ⟨files, rfl, ?_⟩
    simp only [outputPath, fileText, path, experiment] at hwrite hread ⊢
    rw [hwrite]
    exact ⟨rfl, hread⟩

end ExperimentReporter

end BenchReport
