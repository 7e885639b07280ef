import BenchReport.Proofs.Reporter.CsvPass

/-!
A pass over series on any medium. Whether a file can be made, which rows it accepts and whether it
keeps them is left open; a tree of files, with what a full one buffers, is one such medium.
-/
namespace BenchReport

namespace Csv

/-- What takes files of rows, one file after the other. Every step may fail, and whether it does
may hang on all that was done before. -/
structure Medium (σ : Type) where
  clock : σ → Int
  create : String → σ → Bool × σ
  accept : List Char → σ → Bool × σ
  flush : σ → Bool × σ

namespace Medium

variable {σ : Type}

/-- Hands over rows one by one; after a refused row the next is tried all the same. -/
def acceptAll (m : Medium σ) : List (List Char) → σ → List Bool × σ
  | [], s => ([], s)
  | row :: rest, s =>
    let first := m.accept row s
    let others := m.acceptAll rest first.2
    (first.1 :: others.1, others.2)

/-- Makes a file for samples, and tells how it took their rows if it could be made. -/
def receive (m : Medium σ) (path : String) (results : List Binary64) (s : σ) :
    Option Reception × σ :=
  let created := m.create path s
  if created.1 then
    let accepted := m.acceptAll (rows (m.clock created.2) results) created.2
    let flushed := m.flush accepted.2
    (some ⟨accepted.1, flushed.1⟩, flushed.2)
  else (none, created.2)

theorem length_acceptAll (m : Medium σ) (rows : List (List Char)) (s : σ) :
    (m.acceptAll rows s).1.length = rows.length := by
  induction rows generalizing s with
  | nil => rfl
  | cons row rest ih => exact congrArg (· + 1) (ih _)

/-- Every sample is accepted or refused, whatever fails. -/
theorem length_accepted {m : Medium σ} {path : String} {results : List Binary64} {s : σ}
    {r : Reception} (h : (m.receive path results s).1 = some r) :
    r.accepted.length = results.length := by
  unfold receive at h
  dsimp only at h
  split at h
  · cases h
    exact (m.length_acceptAll _ _).trans (length_rows _ _)
  · cases h

/-- From some states on the open file takes no byte: what is handed over stays buffered, and only
an empty buffer can be flushed. -/
structure TakesNoByte (m : Medium σ) (Full : σ → Prop) (buffered : σ → Nat) : Prop where
  create {path : String} {s : σ} (hcreated : (m.create path s).1 = true)
    (h : Full (m.create path s).2) : buffered (m.create path s).2 = 0
  accept {s : σ} (h : Full s) (row : List Char) : Full (m.accept row s).2
  fills {s : σ} (h : Full s) {row : List Char} (hrow : row ≠ []) :
    0 < buffered (m.accept row s).2
  flush {s : σ} (h : Full s) : (m.flush s).1 = true ↔ buffered s = 0

namespace TakesNoByte

variable {m : Medium σ} {Full : σ → Prop} {buffered : σ → Nat}

/-- Rows leave something in the buffer, if there are any. -/
theorem acceptAll_full (h : m.TakesNoByte Full buffered) {rows : List (List Char)} {s : σ}
    (hfull : Full s) (hrows : ∀ row ∈ rows, row ≠ []) :
    Full (m.acceptAll rows s).2 ∧ (rows ≠ [] → 0 < buffered (m.acceptAll rows s).2) := by
  induction rows generalizing s with
  | nil => exact ⟨hfull, fun hne => absurd rfl hne⟩
  | cons row rest ih =>
    have hrest := ih (h.accept hfull row) fun other hother =>
      hrows other (List.mem_cons_of_mem _ hother)
    refine ⟨hrest.1, fun _ => ?_⟩
    cases rest with
    | nil => exact h.fills hfull (hrows row List.mem_cons_self)
    | cons next rest => exact hrest.2 (List.cons_ne_nil _ _)

/-- A file that takes no byte keeps no rows but none at all. -/
theorem receive_full (h : m.TakesNoByte Full buffered) {path : String} {s : σ}
    (hcreated : (m.create path s).1 = true) (hfull : Full (m.create path s).2)
    (results : List Binary64) :
    ∃ r, (m.receive path results s).1 = some r ∧ (r.flushed = true ↔ results = []) := by
  have hrows : ∀ row ∈ rows (m.clock (m.create path s).2) results, row ≠ [] := by
    intro row hrow
    rw [rows_eq_mapIdx] at hrow
    obtain ⟨i, hi, rfl⟩ := List.mem_mapIdx.mp hrow
    exact row_ne_nil _ _
  obtain ⟨hopen, hfills⟩ := h.acceptAll_full hfull hrows
  unfold receive
  dsimp only
  rw [if_pos hcreated]
  refine ⟨_, rfl, (h.flush hopen).trans ?_⟩
  cases results with
  | nil => exact iff_of_true (h.create hcreated hfull) rfl
  | cons value rest =>
    exact iff_of_false (Nat.ne_of_gt (hfills (List.cons_ne_nil _ _))) (List.cons_ne_nil _ _)

end TakesNoByte

end Medium

/-- A tree of files, with the file that is open and the bytes handed over to it so far. -/
structure Disk where
  files : FileTree
  clock : Int
  target : FileTree.Target
  content : List Char

/-- The files as they are before any is opened. -/
def Disk.ofWorld (world : World) : Disk := ⟨world.files, world.clock, .full, []⟩

/-- Files that can be opened take every row, but a full one none beyond its buffer. -/
def disk : Medium Disk where
  clock d := d.clock
  create path d :=
    match d.files.openForWriting path with
    | .error _ => (false, d)
    | .ok target => (true, { d with target := target, content := [] })
  accept row d :=
    match d.target with
    | .regular _ => (true, { d with content := d.content ++ row })
    | .full =>
      (d.content.length + row.length ≤ bufferSize,
        { d with content := (d.content ++ row).take bufferSize })
  flush d :=
    match d.target with
    | .regular place =>
      (true, { d with files := d.files.put place (.file (String.ofList d.content).toByteArray) })
    | .full => (d.content.isEmpty, d)

section Disk

variable {d : Disk} {path : String}

@[simp] theorem disk_clock : disk.clock d = d.clock := rfl

theorem disk_create_error {e : FileError} (h : d.files.openForWriting path = .error e) :
    disk.create path d = (false, d) := by
  simp only [disk, h]

theorem disk_create_ok {target : FileTree.Target} (h : d.files.openForWriting path = .ok target) :
    disk.create path d = (true, { d with target := target, content := [] }) := by
  simp only [disk, h]

theorem disk_accept_full (h : d.target = .full) (row : List Char) :
    disk.accept row d = (decide (d.content.length + row.length ≤ bufferSize),
      { d with content := (d.content ++ row).take bufferSize }) := by
  simp only [disk, h]

theorem disk_accept_regular {place : Place} (h : d.target = .regular place) (row : List Char) :
    disk.accept row d = (true, { d with content := d.content ++ row }) := by
  simp only [disk, h]

theorem disk_flush_full (h : d.target = .full) : disk.flush d = (d.content.isEmpty, d) := by
  simp only [disk, h]

/-- A full file of a tree takes no byte. -/
theorem disk_takesNoByte :
    disk.TakesNoByte (fun d => d.target = .full) (fun d => d.content.length) where
  create {path d} hcreated _ := by
    cases hopen : d.files.openForWriting path with
    | error e =>
      rw [disk_create_error hopen] at hcreated
      cases hcreated
    | ok target => rw [disk_create_ok hopen]; rfl
  accept h row := by
    rw [disk_accept_full h]
    exact h
  fills {d} h row hrow := by
    have hlength : 0 < row.length := List.length_pos_iff.mpr hrow
    rw [disk_accept_full h]
    simp only [List.length_take, List.length_append, bufferSize]
    omega
  flush {d} h := by
    rw [disk_flush_full h, List.isEmpty_iff, List.length_eq_zero_iff]

/-- A regular file accepts all rows and holds them one after the other. -/
theorem disk_acceptAll_regular {place : Place} (h : d.target = .regular place)
    (rows : List (List Char)) :
    disk.acceptAll rows d =
      (rows.map fun _ => true, { d with content := d.content ++ rows.flatten }) := by
  induction rows generalizing d with
  | nil => simp [Medium.acceptAll]
  | cons row rest ih =>
    have hrest := ih (d := { d with content := d.content ++ row }) h
    simp only [Medium.acceptAll, disk_accept_regular h, hrest, List.map_cons, List.flatten_cons,
      List.append_assoc]

/-- A full file accepts the rows that fit into its buffer, up to the first that does not. -/
theorem disk_acceptAll_full (h : d.target = .full) (hfits : d.content.length ≤ bufferSize)
    (rows : List (List Char)) :
    (disk.acceptAll rows d).1 = bufferAccepts (bufferSize - d.content.length) rows ∧
      (disk.acceptAll rows d).2.target = .full ∧
      (disk.acceptAll rows d).2.files = d.files ∧ (disk.acceptAll rows d).2.clock = d.clock := by
  induction rows generalizing d with
  | nil => exact ⟨rfl, h, rfl, rfl⟩
  | cons row rest ih =>
    have hlength : ((d.content ++ row).take bufferSize).length ≤ bufferSize :=
      List.length_take_le _ _
    obtain ⟨haccepted, htarget, hfiles, hclock⟩ :=
      ih (d := { d with content := (d.content ++ row).take bufferSize }) h hlength
    simp only [Medium.acceptAll, disk_accept_full h, haccepted, htarget, hfiles, hclock,
      bufferAccepts, and_true]
    rw [List.length_take, List.length_append]
    split
    case isTrue hroom =>
      have hsum : d.content.length + row.length ≤ bufferSize := by omega
      rw [decide_eq_true hsum, Nat.min_eq_right hsum, Nat.sub_add_eq]
    case isFalse hroom =>
      have hsum : bufferSize < d.content.length + row.length := by omega
      rw [decide_eq_false (Nat.not_le.mpr hsum), Nat.min_eq_left (Nat.le_of_lt hsum), Nat.sub_self]

theorem receive_disk_regular {place : Place}
    (h : d.files.openForWriting path = .ok (.regular place)) (results : List Binary64) :
    let received := disk.receive path results d
    let rows := rows d.clock results
    received.1 = some (takesAll rows) ∧
      received.2.files = d.files.put place (.file (String.ofList rows.flatten).toByteArray) ∧
      received.2.clock = d.clock := by
  simp only [Medium.receive, disk_create_ok h, if_true]
  rw [disk_acceptAll_regular rfl]
  exact ⟨rfl, rfl, rfl⟩

theorem receive_disk_full (h : d.files.openForWriting path = .ok .full)
    (results : List Binary64) :
    let received := disk.receive path results d
    received.1 = some (takesNone (rows d.clock results)) ∧ received.2.files = d.files ∧
      received.2.clock = d.clock := by
  obtain ⟨haccepted, htarget, hfiles, hclock⟩ :=
    disk_acceptAll_full (d := { d with target := .full, content := [] }) rfl (Nat.zero_le _)
      (rows d.clock results)
  have hcreated : (disk.create path d).1 = true := by rw [disk_create_ok h]
  have hfull : (disk.create path d).2.target = .full := by rw [disk_create_ok h]
  obtain ⟨r, hr, hflushed⟩ := disk_takesNoByte.receive_full hcreated hfull results
  have hempty : (rows d.clock results).isEmpty = true ↔ results = [] := by
    rw [List.isEmpty_iff, ← List.length_eq_zero_iff, length_rows, List.length_eq_zero_iff]
  simp only [Medium.receive, disk_create_ok h, disk_clock, if_true, Option.some.injEq] at hr ⊢
  subst hr
  have hkept := Bool.eq_iff_iff.mpr (hflushed.trans hempty.symm)
  refine ⟨congr (congrArg Reception.mk haccepted) hkept, ?_⟩
  rw [disk_flush_full htarget]
  exact ⟨hfiles, hclock⟩

end Disk

end Csv

/-- An attempt to write a series: no file was made, or a file that took the rows in some way. -/
structure Attempt where
  name : String
  series : Series
  reception : Option Csv.Reception

/-- The attempts at some series, what was counted, and what is left of a medium. -/
structure Pass (σ : Type) where
  attempts : List Attempt
  stats : ExportStats
  state : σ

namespace CsvReporter

open Csv

variable {σ : Type}

/-- Writes series to a medium one after the other, whatever happens to each. -/
def exportTo (reporter : CsvReporter) (m : Medium σ) :
    List (String × Series) → ExportStats → σ → Pass σ
  | [], stats, s => ⟨[], stats, s⟩
  | (name, series) :: rest, stats, s =>
    let received := m.receive (reporter.filePath name) series.results s
    let others := reporter.exportTo m rest (stats.add received.1) received.2
    { others with attempts := ⟨name, series, received.1⟩ :: others.attempts }

/-- On the files of a world a series counts as its file took the rows, and the files are those that
are written. -/
theorem writeSeries_disk (reporter : CsvReporter) (name : String) (series : Series)
    (stats : ExportStats) {world : World} {d : Disk} (hfiles : d.files = world.files)
    (hclock : d.clock = world.clock) :
    let received := disk.receive (reporter.filePath name) series.results d
    let written := reporter.writeSeries name series stats world
    written.1 = stats.add received.1 ∧ received.2.files = written.2.files ∧
      received.2.clock = written.2.clock := by
  intro received written
  simp only [received, written, writeSeries]
  cases hopen : world.files.openForWriting (reporter.filePath name) with
  | error e =>
    have hcreate := disk_create_error (d := d) (hfiles ▸ hopen)
    simp only [Medium.receive, hcreate]
    exact ⟨rfl, hfiles, hclock⟩
  | ok target =>
    cases target with
    | full =>
      obtain ⟨hreception, hsame, htime⟩ := receive_disk_full (hfiles ▸ hopen) series.results
      rw [hreception, hsame, htime, hclock]
      exact ⟨rfl, hfiles, rfl⟩
    | regular place =>
      obtain ⟨hreception, hput, htime⟩ := receive_disk_regular (hfiles ▸ hopen) series.results
      rw [hreception, hput, htime, hclock, hfiles]
      exact ⟨rfl, rfl, rfl⟩

/-- The files of a world are such a medium: the writer counts what is counted on it, and leaves the
same files. -/
theorem writeEntries_disk (reporter : CsvReporter) (entries : List (String × Series))
    (stats : ExportStats) {world : World} {d : Disk} (hfiles : d.files = world.files)
    (hclock : d.clock = world.clock) :
    let pass := reporter.exportTo disk entries stats d
    let written := reporter.writeEntries entries stats world
    written.1 = pass.stats ∧ written.2.files = pass.state.files := by
  induction entries generalizing stats world d with
  | nil => exact ⟨rfl, hfiles.symm⟩
  | cons entry rest ih =>
    obtain ⟨hstats, hsame, htime⟩ :=
      reporter.writeSeries_disk entry.1 entry.2 stats hfiles hclock
    have hrest := ih (stats.add (disk.receive (reporter.filePath entry.1) entry.2.results d).1)
      hsame htime
    rw [← hstats] at hrest
    obtain ⟨name, series⟩ := entry
    simp only [exportTo, writeEntries, ← hstats]
    exact hrest

end CsvReporter

end BenchReport
