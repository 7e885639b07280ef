import BenchReport.Proofs.File.Rewriting
import BenchReport.Proofs.NameMap
import BenchReport.Proofs.Reporter.CsvDirectory
import BenchReport.Proofs.Text.ByteOrder

/-!
The files after a map of series was written, whatever the tree was before: of the series that share
a file the one with the greatest name is left, and no other file is touched.
-/
namespace BenchReport

open FileName (baseName csvName)

namespace Csv

theorem rows_eq_mapIdx (stamp : Int) (results : List Binary64) :
    rows stamp results = results.mapIdx fun i value => row (stamp + i) value := by
  induction results generalizing stamp with
  | nil => rfl
  | cons value rest ih =>
    rw [rows, ih, List.mapIdx_cons]
    simp only [Int.natCast_zero, Int.add_zero, Int.natCast_add, Int.natCast_one, Int.add_assoc,
      Int.add_comm 1]

theorem length_rows (stamp : Int) (results : List Binary64) :
    (rows stamp results).length = results.length := by
  rw [rows_eq_mapIdx, List.length_mapIdx]

theorem row_ne_nil (stamp : Int) (value : Binary64) : row stamp value ≠ [] :=
  List.append_ne_nil_of_right_ne_nil _ (List.cons_ne_nil _ _)

end Csv

namespace CsvReporter

open Csv

/-- The place of the file of a name, if it can be made or written anew there. -/
def Targets (reporter : CsvReporter) (files : FileTree) (name : String) (place : Place) : Prop :=
  files.openForWriting (reporter.filePath name) = .ok (.regular place)

/-- A series was written: its file holds its rows if it could be opened, and all else stays. -/
structure Wrote (reporter : CsvReporter) (name : String) (series : Series)
    (before after : World) : Prop where
  clock : after.clock = before.clock
  rewrites : FileTree.Rewrites before.files after.files
  target {place : Place} (h : reporter.Targets before.files name place) :
    after.files.node? place = some (.file (fileContent before.clock series.results))
  other {place : Place} (h : ¬reporter.Targets before.files name place) :
    after.files.node? place = before.files.node? place

variable {reporter : CsvReporter} {place : Place}

theorem writeSeries_wrote (reporter : CsvReporter) (name : String) (series : Series)
    (stats : ExportStats) (world : World) :
    Wrote reporter name series world (reporter.writeSeries name series stats world).2 := by
  unfold writeSeries
  cases hopen : world.files.openForWriting (reporter.filePath name) with
  | error e =>
    simp only [hopen]
    refine ⟨rfl, .refl _, fun h => ?_, fun _ => rfl⟩
    rw [Targets, hopen] at h
    cases h
  | ok target =>
    cases target with
    | full =>
      simp only [hopen]
      refine ⟨rfl, .refl _, fun h => ?_, fun _ => rfl⟩
      rw [Targets, hopen] at h
      cases h
    | regular found =>
      simp only [hopen]
      refine ⟨rfl, FileTree.rewrites_put hopen _, fun h => ?_, fun h => ?_⟩
      · rw [Targets, hopen] at h
        cases h
        exact FileTree.node?_put_self _ (FileTree.openForWriting_place_ne_nil hopen) _
      · refine FileTree.node?_put_of_ne _ ?_ _
        rintro rfl
        exact h hopen

/-- The entries of a list are written one after the other. -/
theorem writeEntries_append (first second : List (String × Series)) (stats : ExportStats)
    (world : World) :
    ∃ middle, reporter.writeEntries (first ++ second) stats world =
      reporter.writeEntries second middle (reporter.writeEntries first stats world).2 := by
  induction first generalizing stats world with
  | nil => exact ⟨stats, rfl⟩
  | cons entry rest ih => exact ih _ _

theorem writeEntries_rewrites (entries : List (String × Series)) (stats : ExportStats)
    (world : World) :
    (reporter.writeEntries entries stats world).2.clock = world.clock ∧
      FileTree.Rewrites world.files (reporter.writeEntries entries stats world).2.files := by
  induction entries generalizing stats world with
  | nil => exact ⟨rfl, .refl _⟩
  | cons entry rest ih =>
    have first := writeSeries_wrote reporter entry.1 entry.2 stats world
    obtain ⟨hclock, later⟩ := ih (reporter.writeSeries entry.1 entry.2 stats world).1
      (reporter.writeSeries entry.1 entry.2 stats world).2
    exact ⟨hclock.trans first.clock, first.rewrites.trans later⟩

/-- A pass leaves alone what none of its entries is written to. -/
theorem writeEntries_other {entries : List (String × Series)} (stats : ExportStats)
    {world : World} (h : ∀ entry ∈ entries, ¬reporter.Targets world.files entry.1 place) :
    (reporter.writeEntries entries stats world).2.files.node? place = world.files.node? place := by
  induction entries generalizing stats world with
  | nil => rfl
  | cons entry rest ih =>
    have first := writeSeries_wrote reporter entry.1 entry.2 stats world
    have hrest : ∀ later ∈ rest, ¬reporter.Targets
        (reporter.writeSeries entry.1 entry.2 stats world).2.files later.1 place := by
      intro later hlater htargets
      exact h later (List.mem_cons_of_mem _ hlater) (first.rewrites.regular_iff.mp htargets)
    exact (ih _ hrest).trans (first.other (h entry List.mem_cons_self))

/-- The last entry that is written to a file stands in it. -/
theorem writeEntries_last {before after : List (String × Series)} {name : String}
    {series : Series} (stats : ExportStats) {world : World}
    (htarget : reporter.Targets world.files name place)
    (hafter : ∀ entry ∈ after, ¬reporter.Targets world.files entry.1 place) :
    (reporter.writeEntries (before ++ (name, series) :: after) stats world).2.files.node? place =
      some (.file (fileContent world.clock series.results)) := by
  obtain ⟨middle, hsplit⟩ := writeEntries_append before ((name, series) :: after) stats world
  obtain ⟨hclock, hbefore⟩ := writeEntries_rewrites before stats world
  have wrote := writeSeries_wrote reporter name series middle
    (reporter.writeEntries before stats world).2
  have hrest : ∀ entry ∈ after, ¬reporter.Targets (reporter.writeSeries name series middle
      (reporter.writeEntries before stats world).2).2.files entry.1 place := by
    intro entry hentry htargets
    exact hafter entry hentry ((hbefore.trans wrote.rewrites).regular_iff.mp htargets)
  have hwritten := wrote.target (hbefore.regular_iff.mpr htarget)
  rw [hclock] at hwritten
  rw [hsplit]
  exact (writeEntries_other _ hrest).trans hwritten

/-- The file of a name stands in the report directory. -/
theorem Targets.inside {files : FileTree} {name : String} (h : reporter.Targets files name place) :
    ∃ dirPlace, files.joinPlace reporter.reportDir = .ok dirPlace ∧
      place = dirPlace ++ [(csvName name).toList] := by
  obtain ⟨hresolve, -⟩ := FileTree.openForWriting_regular_iff.mp h
  obtain ⟨dirPlace, hdir, -, hplace⟩ := FileTree.resolve_join_ok (FileName.csvName_plain name)
    hresolve
  exact ⟨dirPlace, hdir, hplace⟩

theorem Targets.baseName_eq {files : FileTree} {a b : String} (ha : reporter.Targets files a place)
    (hb : reporter.Targets files b place) : baseName a = baseName b := by
  obtain ⟨dirPlace, hdir, hplaceA⟩ := ha.inside
  obtain ⟨otherPlace, hother, hplaceB⟩ := hb.inside
  rw [hdir, Except.ok.injEq] at hother
  rw [hplaceA, hother] at hplaceB
  have hfile := List.append_cancel_left hplaceB
  exact FileName.csvName_inj.mp (String.ext (List.head_eq_of_cons_eq hfile))

/-- The entry with the greatest name of those that share a base name. -/
theorem exists_greatest {measurements : NameMap Series} {base : String}
    (h : base ∈ measurements.names.map baseName) :
    ∃ before name series after, measurements.entries = before ++ (name, series) :: after ∧
      baseName name = base ∧ (∀ entry ∈ after, baseName entry.1 ≠ base) ∧
      ∀ other ∈ measurements.names, baseName other = base → Text.bytes other ≤ Text.bytes name := by
  obtain ⟨name, hname, hbase⟩ := List.mem_map.mp h
  obtain ⟨entry, hentry, rfl⟩ := List.mem_map.mp hname
  have hfound : (measurements.entries.reverse.find? fun entry => baseName entry.1 = base).isSome := by
    rw [List.find?_isSome]
    exact ⟨entry, List.mem_reverse.mpr hentry, by simpa using hbase⟩
  obtain ⟨⟨name, series⟩, hlast⟩ := Option.isSome_iff_exists.mp hfound
  obtain ⟨hself, before, after, hsplit, hafter⟩ := NameMap.find?_reverse_eq_some_iff.mp hlast
  have hdiffer : ∀ entry ∈ after, baseName entry.1 ≠ base := by
    intro entry hentry
    simpa using hafter entry hentry
  refine ⟨before, name, series, after, hsplit, by simpa using hself, hdiffer, ?_⟩
  intro other hother hsame
  apply Text.bytes_le_of_le
  apply NameMap.le_of_entries hsplit hother
  rintro entry hentry rfl
  exact hdiffer entry hentry hsame

/-- After a pass a file that could be opened holds the rows of the last of its series, by the bytes
of their names, one line each with stamps that begin at the clock. Nothing else changes, and these
files stand in the report directory under their own names. -/
theorem writeMeasurements_files (reporter : CsvReporter) (measurements : NameMap Series)
    (world : World) :
    let after := (reporter.writeMeasurements measurements world).2.files
    let bases := measurements.names.map baseName
    (∀ base ∈ bases, ∀ place,
      world.files.openForWriting (Path.join reporter.reportDir (base ++ ".csv")) =
          .ok (.regular place) →
        ∃ name series, measurements.get? name = some series ∧ baseName name = base ∧
          (∀ other ∈ measurements.names, baseName other = base →
            Text.bytes other ≤ Text.bytes name) ∧
          after.node? place = some (.file (String.ofList (series.results.mapIdx fun i value =>
            row (world.clock + i) value).flatten).toByteArray)) ∧
      ∀ place, after.node? place ≠ world.files.node? place →
        ∃ base ∈ bases, ∃ dirPlace,
          world.files.openForWriting (Path.join reporter.reportDir (base ++ ".csv")) =
            .ok (.regular place) ∧
          world.files.joinPlace reporter.reportDir = .ok dirPlace ∧
          place = dirPlace ++ [(base ++ ".csv").toList] := by
  intro after bases
  constructor
  · intro base hbase place hopen
    obtain ⟨before, name, series, later, hsplit, hname, hlater, hgreatest⟩ := exists_greatest hbase
    have htarget : reporter.Targets world.files name place := by
      rw [Targets, filePath, hname]
      exact hopen
    have hother : ∀ entry ∈ later, ¬reporter.Targets world.files entry.1 place := by
      intro entry hentry htargets
      exact hlater entry hentry ((htargets.baseName_eq htarget).trans hname)
    have hget : measurements.get? name = some series := by
      rw [← NameMap.mem_entries_iff, hsplit]
      exact List.mem_append_right _ List.mem_cons_self
    refine ⟨name, series, hget, hname, hgreatest, ?_⟩
    have hwritten : (reporter.writeEntries (before ++ (name, series) :: later) .zero
        world).2.files.node? place = some (.file (fileContent world.clock series.results)) :=
      writeEntries_last .zero htarget hother
    rw [fileContent, rows_eq_mapIdx, ← hsplit] at hwritten
    exact hwritten
  · intro place hchanged
    apply Classical.byContradiction
    intro hnone
    refine hchanged (writeEntries_other .zero fun entry hentry htargets => hnone ?_)
    obtain ⟨dirPlace, hdir, hplace⟩ := htargets.inside
    have hmem : baseName entry.1 ∈ bases :=
      List.mem_map.mpr ⟨entry.1, List.mem_map.mpr ⟨entry, hentry, rfl⟩, rfl⟩
    exact ⟨baseName entry.1, hmem, dirPlace, htargets, hdir, hplace⟩

/-- Two samples, under a name with a space. -/
def earlierRate : Series := ⟨"push rate", "ops", [], [.zero, .zero]⟩

/-- One sample, under a later name of the same file. -/
def laterRate : Series := ⟨"push_rate", "ops", [], [.zero]⟩

def sharedRates : NameMap Series :=
  ⟨[("push rate", earlierRate), ("push_rate", laterRate)], by decide⟩

/-- A report directory with a longer file under their name. -/
def sharedWorld : World :=
  .ofFiles ⟨["bench".toList], [(["bench".toList], .directory),
    (["bench".toList, "out".toList], .directory),
    (["bench".toList, "out".toList, "push-rate.csv".toList],
      .file "1,1.000000\n2,1.000000\n".toByteArray)]⟩ 7

theorem writeMeasurements_files_shared :
    ((⟨"out"⟩ : CsvReporter).writeMeasurements sharedRates sharedWorld).2.files.node?
        ["bench".toList, "out".toList, "push-rate.csv".toList] =
      some (.file "7,0.000000\n".toByteArray) := by
  have hbase : "push-rate" ∈ sharedRates.names.map baseName := by decide
  have hopen : sharedWorld.files.openForWriting (Path.join "out" ("push-rate" ++ ".csv")) =
      .ok (.regular ["bench".toList, "out".toList, "push-rate.csv".toList]) := rfl
  obtain ⟨name, series, hget, -, hgreatest, hfile⟩ :=
    (writeMeasurements_files ⟨"out"⟩ sharedRates sharedWorld).1 "push-rate" hbase _ hopen
  have hseries : series = laterRate := by
    have hle := hgreatest "push_rate" (by decide) (by decide)
    rcases List.mem_cons.mp (NameMap.mem_entries_iff.mpr hget) with hfirst | hsecond
    · obtain ⟨rfl, -⟩ := Prod.mk.inj hfirst
      exact absurd hle (by decide)
    · exact (Prod.mk.inj (List.mem_singleton.mp hsecond)).2
  have hrows : String.ofList (laterRate.results.mapIdx fun i value =>
      row (sharedWorld.clock + i) value).flatten = "7,0.000000\n" := by decide +kernel
  rw [hfile, hseries, hrows]

end CsvReporter

end BenchReport
