import BenchReport.Proofs.Reporter.CsvPass

/-!
A pass over series whose files can all be opened skips nothing, and its counts say so. In an empty
directory names of different files leave one file each.
-/
namespace BenchReport

open FileName (csvName)

namespace Csv

theorem taken_takesAll (rows : List (List Char)) : (takesAll rows).taken = rows.length := by
  rw [takesAll, Reception.taken, List.map_const', List.count_replicate_self]

theorem refused_takesAll (rows : List (List Char)) : (takesAll rows).refused = 0 := by
  rw [takesAll, Reception.refused, List.map_const', List.count_replicate]
  rfl

end Csv

namespace CsvReporter

open Csv

variable {reporter : CsvReporter} {world : World} {place : Place}

theorem writeSeries_stats {name : String} (htarget : reporter.Targets world.files name place)
    (series : Series) (stats : ExportStats) :
    (reporter.writeSeries name series stats world).1 =
      { stats with
        filesWritten := stats.filesWritten + 1
        rowsWritten := stats.rowsWritten + series.results.length } := by
  have hopen : world.files.openForWriting (reporter.filePath name) = .ok (.regular place) := htarget
  unfold writeSeries
  simp only [hopen, ExportStats.add, taken_takesAll, refused_takesAll, length_rows]
  rfl

/-- Where every file can be opened every series counts as a file and every sample as a row. -/
theorem writeEntries_stats {entries : List (String × Series)}
    (htargets : ∀ entry ∈ entries, ∃ place, reporter.Targets world.files entry.1 place)
    (stats : ExportStats) :
    (reporter.writeEntries entries stats world).1 =
      { stats with
        filesWritten := stats.filesWritten + entries.length
        rowsWritten :=
          stats.rowsWritten + (entries.map fun entry => entry.2.results.length).sum } := by
  induction entries generalizing stats world with
  | nil => rfl
  | cons entry rest ih =>
    obtain ⟨place, htarget⟩ := htargets entry List.mem_cons_self
    have wrote := writeSeries_wrote reporter entry.1 entry.2 stats world
    have hrest : ∀ later ∈ rest, ∃ place, reporter.Targets
        (reporter.writeSeries entry.1 entry.2 stats world).2.files later.1 place := by
      intro later hlater
      obtain ⟨place, htarget⟩ := htargets later (List.mem_cons_of_mem _ hlater)
      exact ⟨place, wrote.rewrites.regular_iff.mpr htarget⟩
    have hsplit : reporter.writeEntries (entry :: rest) stats world =
        reporter.writeEntries rest (reporter.writeSeries entry.1 entry.2 stats world).1
          (reporter.writeSeries entry.1 entry.2 stats world).2 := rfl
    rw [hsplit, ih hrest, writeSeries_stats htarget]
    simp only [List.length_cons, List.map_cons, List.sum_cons, Nat.add_assoc, Nat.add_comm 1]

/-- In an empty directory the file of every name that is not too long can be made. -/
theorem targets_of_fresh {files : FileTree} {dir : String} (fresh : files.Fresh dir place)
    {name : String} (hshort : FileTree.byteLength (csvName name).toList ≤ FileTree.longestName) :
    (CsvReporter.mk dir).Targets files name (place ++ [(csvName name).toList]) := by
  have hresolve := FileTree.resolve_join_directory fresh.leads fresh.directory
    (FileName.csvName_plain name)
  rw [if_neg (Nat.not_lt.mpr hshort)] at hresolve
  refine FileTree.openForWriting_regular_iff.mpr ⟨hresolve, ?_, ?_⟩
  · simp [fresh.empty]
  · simp [fresh.empty]

/-- A name whose file no other name of the map is written to leaves all its samples there. -/
theorem writeMeasurements_alone {measurements : NameMap Series} {name : String} {series : Series}
    (hget : measurements.get? name = some series)
    (htarget : reporter.Targets world.files name place)
    (halone : ∀ other ∈ measurements.names,
      reporter.Targets world.files other place → other = name) :
    (reporter.writeMeasurements measurements world).2.files.node? place =
      some (.file (fileContent world.clock series.results)) := by
  obtain ⟨before, after, hsplit, hafter⟩ := NameMap.exists_split hget
  have hothers : ∀ entry ∈ after, ¬reporter.Targets world.files entry.1 place := by
    intro entry hentry htargets
    have hmem : entry ∈ measurements.entries := by
      rw [hsplit]
      exact List.mem_append_right _ (List.mem_cons_of_mem _ hentry)
    exact hafter entry hentry (halone entry.1 (List.mem_map_of_mem hmem) htargets)
  have hwritten : (reporter.writeEntries (before ++ (name, series) :: after) .zero
      world).2.files.node? place = some (.file (fileContent world.clock series.results)) :=
    writeEntries_last .zero htarget hothers
  rw [← hsplit] at hwritten
  exact hwritten

/-- What a pass changes is the file of one of its entries. -/
theorem writeEntries_changed {entries : List (String × Series)} {stats : ExportStats}
    (h : (reporter.writeEntries entries stats world).2.files.node? place ≠
      world.files.node? place) :
    ∃ entry ∈ entries, reporter.Targets world.files entry.1 place := by
  apply Classical.byContradiction
  intro hnone
  refine h (writeEntries_other stats fun entry hentry htargets => hnone ?_)
  exact ⟨entry, hentry, htargets⟩

/-- Names of different files written into an empty directory leave a file each, with all samples of
the name, and no other file. -/
theorem writeMeasurements_fresh {dir : String} (fresh : world.files.Fresh dir place)
    {measurements : NameMap Series}
    (hshort : ∀ name ∈ measurements.names,
      FileTree.byteLength (csvName name).toList ≤ FileTree.longestName)
    (hapart : ∀ a ∈ measurements.names, ∀ b ∈ measurements.names,
      csvName a = csvName b → a = b) :
    let written := (CsvReporter.mk dir).writeMeasurements measurements world
    written.1 = ⟨measurements.size, 0,
        (measurements.values.map fun series => series.results.length).sum, 0⟩ ∧
      (∀ name series, measurements.get? name = some series →
        written.2.files.node? (place ++ [(csvName name).toList]) =
          some (.file (fileContent world.clock series.results))) ∧
      ∀ other, written.2.files.node? other ≠ world.files.node? other →
        ∃ name ∈ measurements.names, other = place ++ [(csvName name).toList] := by
  intro written
  have hname : ∀ entry ∈ measurements.entries, entry.1 ∈ measurements.names :=
    fun entry hentry => List.mem_map_of_mem hentry
  have htarget : ∀ entry ∈ measurements.entries,
      (CsvReporter.mk dir).Targets world.files entry.1 (place ++ [(csvName entry.1).toList]) :=
    fun entry hentry => targets_of_fresh fresh (hshort entry.1 (hname entry hentry))
  refine ⟨?_, fun name series hget => ?_, fun other hchanged => ?_⟩
  · have hstats := writeEntries_stats (fun entry hentry => ⟨_, htarget entry hentry⟩)
      ExportStats.zero
    simp only [ExportStats.zero, Nat.zero_add] at hstats
    rw [NameMap.values, List.map_map]
    exact hstats
  · have hself : (CsvReporter.mk dir).Targets world.files name
        (place ++ [(csvName name).toList]) :=
      htarget (name, series) (NameMap.mem_entries_iff.mpr hget)
    refine writeMeasurements_alone hget hself fun other hother htargets => ?_
    have hfile := FileName.csvName_inj.mpr (htargets.baseName_eq hself)
    exact hapart other hother name (NameMap.mem_names_iff.mpr ⟨series, hget⟩) hfile
  · obtain ⟨entry, hentry, htargets⟩ := writeEntries_changed hchanged
    have hplace := htarget entry hentry
    rw [Targets, htargets, Except.ok.injEq, FileTree.Target.regular.injEq] at hplace
    exact ⟨entry.1, hname entry hentry, hplace⟩

end CsvReporter

end BenchReport
