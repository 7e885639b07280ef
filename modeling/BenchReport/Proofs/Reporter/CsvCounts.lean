import BenchReport.Proofs.Reporter.CsvMedium
import Mathlib.Data.Bool.Count

/-!
The counts of a pass over series, whatever fails on the medium: each series is one file written or
skipped, and each sample of a file that could be made is one row written or skipped.
-/
namespace BenchReport

namespace Csv.Reception

theorem taken_add_refused (r : Reception) : r.taken + r.refused = r.accepted.length :=
  List.count_true_add_count_false r.accepted

end Csv.Reception

namespace Attempt

/-- Whether the file could be made. -/
def created (a : Attempt) : Bool := a.reception.isSome

/-- Whether the file kept what it accepted. -/
def kept (a : Attempt) : Bool := a.reception.any Csv.Reception.flushed

def samples (a : Attempt) : Nat := a.series.results.length

/-- The rows that were accepted by a file that kept them. -/
def rowsKept (a : Attempt) : Nat :=
  match a.reception with
  | none => 0
  | some r => if r.flushed then r.taken else 0

/-- The rows that were refused, and all rows of a file that did not keep them. -/
def rowsLost (a : Attempt) : Nat :=
  match a.reception with
  | none => 0
  | some r => if r.flushed then r.refused else a.samples

/-- Each sample was accepted or refused, if the file could be made. -/
def Fits (a : Attempt) : Prop := ∀ r, a.reception = some r → r.accepted.length = a.samples

theorem Fits.rows {a : Attempt} (fits : a.Fits) :
    a.rowsKept + a.rowsLost = if a.created then a.samples else 0 := by
  cases hreception : a.reception with
  | none => simp [rowsKept, rowsLost, created, hreception]
  | some r =>
    have hsamples := r.taken_add_refused.trans (fits r hreception)
    simp only [rowsKept, rowsLost, created, hreception, Option.isSome_some, if_true]
    split
    · exact hsamples
    · exact Nat.zero_add _

end Attempt

namespace ExportStats

/-- Whichever way the file of a series was left, it counts once, and so does every sample of a file
that could be made. -/
theorem add_eq (stats : ExportStats) {a : Attempt} (fits : a.Fits) :
    stats.add a.reception =
      { filesWritten := stats.filesWritten + if a.kept then 1 else 0
        filesSkipped := stats.filesSkipped + if a.kept then 0 else 1
        rowsWritten := stats.rowsWritten + a.rowsKept
        rowsSkipped := stats.rowsSkipped + a.rowsLost } := by
  cases hreception : a.reception with
  | none => simp [add, Attempt.kept, Attempt.rowsKept, Attempt.rowsLost, hreception]
  | some r =>
    have hsamples := r.taken_add_refused.trans (fits r hreception)
    cases hflushed : r.flushed with
    | true => simp [add, Attempt.kept, Attempt.rowsKept, Attempt.rowsLost, hreception, hflushed]
    | false =>
      simp [add, Attempt.kept, Attempt.rowsKept, Attempt.rowsLost, hreception, hflushed,
        ← hsamples, Nat.add_comm r.refused]

/-- Counts that tell what came of some attempts. -/
structure Accounts (stats : ExportStats) (attempts : List Attempt) : Prop where
  fits : ∀ a ∈ attempts, a.Fits
  filesWritten : stats.filesWritten = attempts.countP Attempt.kept
  filesSkipped : stats.filesSkipped = attempts.countP fun a => !a.kept
  rowsWritten : stats.rowsWritten = (attempts.map Attempt.rowsKept).sum
  rowsSkipped : stats.rowsSkipped = (attempts.map Attempt.rowsLost).sum

namespace Accounts

variable {stats : ExportStats} {attempts : List Attempt}

theorem zero : ExportStats.zero.Accounts [] :=
  ⟨fun _ h => absurd h List.not_mem_nil, rfl, rfl, rfl, rfl⟩

/-- The counts of one more series account for it too. -/
theorem add (h : stats.Accounts attempts) {a : Attempt} (fits : a.Fits) :
    (stats.add a.reception).Accounts (attempts ++ [a]) := by
  rw [add_eq stats fits]
  refine ⟨?_, ?_, ?_, ?_, ?_⟩
  · intro other hother
    rcases List.mem_append.mp hother with hother | hother
    · exact h.fits other hother
    · rw [List.mem_singleton.mp hother]
      exact fits
  · rw [List.countP_append, List.countP_singleton, h.filesWritten]
  · rw [List.countP_append, List.countP_singleton, h.filesSkipped]
    cases a.kept <;> rfl
  · rw [List.map_append, List.sum_append, h.rowsWritten]
    simp
  · rw [List.map_append, List.sum_append, h.rowsSkipped]
    simp

/-- A series is a file that was kept or one that was not. -/
theorem files (h : stats.Accounts attempts) :
    stats.filesWritten + stats.filesSkipped = attempts.length := by
  rw [h.filesWritten, h.filesSkipped, attempts.length_eq_countP_add_countP Attempt.kept]
  simp only [Bool.not_eq_true, Bool.decide_eq_false]

/-- A sample of a file that could be made is a row that was kept or one that was not. -/
theorem rows (h : stats.Accounts attempts) :
    stats.rowsWritten + stats.rowsSkipped =
      ((attempts.filter Attempt.created).map Attempt.samples).sum := by
  rw [h.rowsWritten, h.rowsSkipped]
  have hfits := h.fits
  clear h
  induction attempts with
  | nil => rfl
  | cons a rest ih =>
    have hrest := ih fun other hother => hfits other (List.mem_cons_of_mem _ hother)
    have hfirst := (hfits a List.mem_cons_self).rows
    rw [List.filter_cons]
    split
    case isTrue hcreated =>
      rw [if_pos hcreated] at hfirst
      simp only [List.map_cons, List.sum_cons]
      omega
    case isFalse hcreated =>
      rw [if_neg hcreated] at hfirst
      simp only [List.map_cons, List.sum_cons]
      omega

end Accounts

end ExportStats

namespace CsvReporter

open Csv

variable {σ : Type}

/-- A pass visits every series, in the order in which they are given. -/
theorem exportTo_visits (reporter : CsvReporter) (m : Medium σ)
    (entries : List (String × Series)) (stats : ExportStats) (s : σ) :
    (reporter.exportTo m entries stats s).attempts.map (fun a => (a.name, a.series)) = entries := by
  induction entries generalizing stats s with
  | nil => rfl
  | cons entry rest ih => exact congrArg (entry :: ·) (ih _ _)

/-- What was counted before a pass and what came of its series are both in the counts after it. -/
theorem exportTo_accounts (reporter : CsvReporter) (m : Medium σ)
    (entries : List (String × Series)) {stats : ExportStats} {past : List Attempt}
    (h : stats.Accounts past) (s : σ) :
    (reporter.exportTo m entries stats s).stats.Accounts
      (past ++ (reporter.exportTo m entries stats s).attempts) := by
  induction entries generalizing stats past s with
  | nil =>
    rw [exportTo, List.append_nil]
    exact h
  | cons entry rest ih =>
    obtain ⟨name, series⟩ := entry
    have fits : Attempt.Fits
        ⟨name, series, (m.receive (reporter.filePath name) series.results s).1⟩ :=
      fun r hr => m.length_accepted hr
    have hrest := ih (h.add fits) (m.receive (reporter.filePath name) series.results s).2
    rw [List.append_assoc] at hrest
    exact hrest

/-- On a file that takes no byte a series without samples is a file written, and any other a file
skipped with all its rows. -/
theorem exportTo_full (reporter : CsvReporter) {m : Medium σ} {Full : σ → Prop} {buffered : σ → Nat}
    (h : m.TakesNoByte Full buffered) {name : String} {s : σ}
    (hcreated : (m.create (reporter.filePath name) s).1 = true)
    (hfull : Full (m.create (reporter.filePath name) s).2) (series : Series) (stats : ExportStats) :
    (reporter.exportTo m [(name, series)] stats s).stats =
      if series.results = [] then { stats with filesWritten := stats.filesWritten + 1 }
      else
        { stats with
          filesSkipped := stats.filesSkipped + 1
          rowsSkipped := stats.rowsSkipped + series.results.length } := by
  obtain ⟨r, hr, hflushed⟩ := h.receive_full hcreated hfull series.results
  have hlength : r.taken + r.refused = series.results.length :=
    r.taken_add_refused.trans (Medium.length_accepted hr)
  have hadd : (reporter.exportTo m [(name, series)] stats s).stats = stats.add (some r) := by
    simp only [exportTo, hr]
  rw [hadd, ExportStats.add]
  split
  case isTrue hkept =>
    have hempty := hflushed.mp hkept
    rw [hempty, List.length_nil] at hlength
    obtain ⟨htaken, hrefused⟩ := Nat.add_eq_zero_iff.mp hlength
    rw [if_pos hempty, htaken, hrefused]
    rfl
  case isFalse hlost =>
    rw [if_neg fun hempty => hlost (hflushed.mpr hempty), Nat.add_comm r.refused, hlength]

/-- Whatever fails on a medium, a pass visits every series and counts it as one file, and every
sample of a file that could be made as one row; written are the rows that were accepted by files
that kept them. On a file that takes no byte nothing is written but a series without samples. The
files of a world are such a medium. -/
theorem exportTo_counts (reporter : CsvReporter) (measurements : NameMap Series) :
    (∀ (σ : Type) (m : Medium σ) (s : σ),
      let pass := reporter.exportTo m measurements.entries .zero s
      pass.attempts.map (fun a => (a.name, a.series)) = measurements.entries ∧
        pass.stats.filesWritten + pass.stats.filesSkipped = measurements.size ∧
        pass.stats.rowsWritten + pass.stats.rowsSkipped =
          ((pass.attempts.filter Attempt.created).map Attempt.samples).sum ∧
        pass.stats.Accounts pass.attempts) ∧
      (∀ (σ : Type) (m : Medium σ) (Full : σ → Prop) (buffered : σ → Nat),
        m.TakesNoByte Full buffered → ∀ name series stats s,
          (m.create (reporter.filePath name) s).1 = true →
          Full (m.create (reporter.filePath name) s).2 →
          (reporter.exportTo m [(name, series)] stats s).stats =
            if series.results = [] then { stats with filesWritten := stats.filesWritten + 1 }
            else
              { stats with
                filesSkipped := stats.filesSkipped + 1
                rowsSkipped := stats.rowsSkipped + series.results.length }) ∧
      ∀ world : World,
        let pass := reporter.exportTo disk measurements.entries .zero (.ofWorld world)
        let written := reporter.writeMeasurements measurements world
        written.1 = pass.stats ∧ written.2.files = pass.state.files := by
  refine ⟨fun σ m s => ?_, fun σ m Full buffered h name series stats s hcreated hfull =>
    reporter.exportTo_full h hcreated hfull series stats,
    fun world => reporter.writeEntries_disk measurements.entries .zero rfl rfl⟩
  intro pass
  have visits := reporter.exportTo_visits m measurements.entries .zero s
  have accounts : pass.stats.Accounts ([] ++ pass.attempts) :=
    reporter.exportTo_accounts m measurements.entries .zero s
  have hlength := congrArg List.length visits
  rw [List.length_map] at hlength
  exact ⟨visits, accounts.files.trans hlength, accounts.rows, accounts⟩

/-- A report directory in which the file of the rates is full. -/
def fullWorld : World :=
  .ofFiles ⟨["bench".toList], [(["bench".toList], .directory),
    (["bench".toList, "out".toList], .directory),
    (["bench".toList, "out".toList, "push-rate.csv".toList], .full)]⟩ 7

/-- Two samples that a full file keeps from being written, and a later series that shares it. -/
theorem exportTo_counts_fullFile :
    disk.TakesNoByte (fun d => d.target = .full) (fun d => d.content.length) ∧
      (disk.create ((⟨"out"⟩ : CsvReporter).filePath "push rate") (.ofWorld fullWorld)).1 = true ∧
      (disk.create ((⟨"out"⟩ : CsvReporter).filePath "push rate")
        (.ofWorld fullWorld)).2.target = .full ∧
      ((⟨"out"⟩ : CsvReporter).exportTo disk [("push rate", earlierRate)] .zero
        (.ofWorld fullWorld)).stats = ⟨0, 1, 0, 2⟩ ∧
      ((⟨"out"⟩ : CsvReporter).writeMeasurements sharedRates fullWorld).1.filesWritten +
        ((⟨"out"⟩ : CsvReporter).writeMeasurements sharedRates fullWorld).1.filesSkipped = 2 := by
  obtain ⟨hcounts, hfull, hworld⟩ := exportTo_counts ⟨"out"⟩ sharedRates
  have hopen : (Disk.ofWorld fullWorld).files.openForWriting
      ((⟨"out"⟩ : CsvReporter).filePath "push rate") = .ok .full := rfl
  have hcreated : (disk.create ((⟨"out"⟩ : CsvReporter).filePath "push rate")
      (.ofWorld fullWorld)).1 = true := by rw [disk_create_ok hopen]
  have htarget : (disk.create ((⟨"out"⟩ : CsvReporter).filePath "push rate")
      (.ofWorld fullWorld)).2.target = .full := by rw [disk_create_ok hopen]
  refine ⟨disk_takesNoByte, hcreated, htarget,
    hfull Disk disk _ _ disk_takesNoByte _ earlierRate .zero _ hcreated htarget, ?_⟩
  rw [(hworld fullWorld).1]
  exact (hcounts Disk disk (.ofWorld fullWorld)).2.1

end CsvReporter

end BenchReport
