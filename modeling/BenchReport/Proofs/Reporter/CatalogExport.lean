import BenchReport.Proofs.Query.Catalog
import BenchReport.Proofs.Reporter.CsvExport
import BenchReport.Proofs.Series.Samples

/-!
Samples recorded for measurements of the catalog and written into an empty directory are all there:
every recorded name has one unit and a file of its own.
-/
namespace BenchReport.CsvReporter

open Csv (printed valueColumn?)
open FileName (csvName)

section

variable {window : Window} {texts : List String} {samples : List (Measurement × Binary64)}
variable {name : String}

theorem exists_of_mem_names (hsamples : ∀ sample ∈ samples, sample.1 ∈ Query.Catalog.all window)
    (h : name ∈ ((Spec.new texts).recordAll samples).measurements.names) :
    ∃ m ∈ Query.Catalog.all window, m.name = name := by
  obtain ⟨sample, hsample, hname⟩ := List.mem_map.mp (Spec.mem_names_recordAll.mp h)
  exact ⟨sample.1, hsamples sample hsample, hname⟩

/-- Whichever measurement of the catalog was first recorded under a name, the series is in the
unit of all. -/
theorem units_of_catalog (hsamples : ∀ sample ∈ samples, sample.1 ∈ Query.Catalog.all window)
    {sample : Measurement × Binary64} (hsample : sample ∈ samples) :
    ∃ series, ((Spec.new texts).recordAll samples).measurements.get? sample.1.name = some series ∧
      series.units = sample.1.unit := by
  have hname : sample.1.name ∈ samples.map (·.1.name) := List.mem_map.mpr ⟨sample, hsample, rfl⟩
  obtain ⟨series, hget⟩ := NameMap.mem_names_iff.mp (Spec.mem_names_recordAll.mpr hname)
  obtain ⟨first, hfirst, hsame, hunit⟩ := Spec.units_recordAll hget
  refine ⟨series, hget, hunit.trans ?_⟩
  exact Query.Catalog.unit_eq (hsamples first hfirst) (hsamples sample hsample) hsame

theorem short_of_catalog (hsamples : ∀ sample ∈ samples, sample.1 ∈ Query.Catalog.all window)
    (h : name ∈ ((Spec.new texts).recordAll samples).measurements.names) :
    FileTree.byteLength (csvName name).toList ≤ FileTree.longestName := by
  obtain ⟨m, hm, rfl⟩ := exists_of_mem_names hsamples h
  exact Query.Catalog.byteLength_csvName_le hm

theorem apart_of_catalog (hsamples : ∀ sample ∈ samples, sample.1 ∈ Query.Catalog.all window)
    {other : String} (h : name ∈ ((Spec.new texts).recordAll samples).measurements.names)
    (hother : other ∈ ((Spec.new texts).recordAll samples).measurements.names)
    (hfile : csvName name = csvName other) : name = other := by
  obtain ⟨m, hm, rfl⟩ := exists_of_mem_names hsamples h
  obtain ⟨m', hm', rfl⟩ := exists_of_mem_names hsamples hother
  exact Query.Catalog.name_eq hm hm' hfile

end

/-- A spec into which measurements of the catalog were recorded in any order has, under the name of
each, a series in its unit. Written into an empty directory it leaves one file for every recorded
name and changes nothing else; the file shows all samples of the name, and all samples are counted
as written. -/
theorem writeMeasurements_catalog {window : Window} {samples : List (Measurement × Binary64)}
    (hsamples : ∀ sample ∈ samples, sample.1 ∈ Query.Catalog.all window) (texts : List String)
    {dir : String} {place : Place} {world : World} (fresh : world.files.Fresh dir place) :
    let spec := (Spec.new texts).recordAll samples
    let names := (samples.map (·.1.name)).dedup
    let written := (CsvReporter.mk dir).writeMeasurements spec.measurements world
    (∀ sample ∈ samples, ∃ series, spec.measurements.get? sample.1.name = some series ∧
        series.units = sample.1.unit) ∧
      (∀ a ∈ names, ∀ b ∈ names, csvName a = csvName b → a = b) ∧
      (∀ name ∈ names, ∃ content,
        written.2.files.node? (place ++ [(csvName name).toList]) = some (.file content) ∧
          valueColumn? content = some (printed ((samplesUnder name samples).map (·.2)))) ∧
      (∀ other, written.2.files.node? other ≠ world.files.node? other ↔
        ∃ name ∈ names, other = place ++ [(csvName name).toList]) ∧
      written.1 = ⟨names.length, 0, samples.length, 0⟩ := by
  intro spec names written
  have hnames (name : String) : name ∈ spec.measurements.names ↔ name ∈ names := by
    rw [Spec.mem_names_recordAll, List.mem_dedup]
  obtain ⟨hstats, hcontent, hchanged⟩ := writeMeasurements_fresh fresh
    (fun _ hname => short_of_catalog hsamples hname)
    (fun _ ha _ hb => apart_of_catalog hsamples ha hb)
  have hfiles : ∀ name ∈ names, ∃ content,
      written.2.files.node? (place ++ [(csvName name).toList]) = some (.file content) ∧
        valueColumn? content = some (printed ((samplesUnder name samples).map (·.2))) := by
    intro name hname
    obtain ⟨series, hget⟩ := NameMap.mem_names_iff.mp ((hnames name).mpr hname)
    refine ⟨_, hcontent name series hget, ?_⟩
    rw [Csv.valueColumn?_fileContent, Spec.results_recordAll hget]
  refine ⟨fun sample hsample => units_of_catalog hsamples hsample, fun a ha b hb => ?_, hfiles,
    fun other => ⟨fun h => ?_, ?_⟩, ?_⟩
  · exact apart_of_catalog hsamples ((hnames a).mpr ha) ((hnames b).mpr hb)
  · obtain ⟨name, hname, hother⟩ := hchanged other h
    exact ⟨name, (hnames name).mp hname, hother⟩
  · rintro ⟨name, hname, rfl⟩
    obtain ⟨content, hnode, -⟩ := hfiles name hname
    rw [hnode, fresh.empty]
    exact Option.some_ne_none _
  · rw [Spec.size_recordAll, Spec.sum_results_recordAll] at hstats
    exact hstats

/-- A working directory with an empty directory `live`. -/
def liveWorld : World :=
  .ofFiles ⟨["bench".toList],
    [(["bench".toList], .directory), (["bench".toList, "live".toList], .directory)]⟩ 0

theorem fiveMinutes_lt : 5 * 60 < Nat.pow 2 64 := by decide

/-- Samples of two components under one name, with a sample under another name between them. -/
def sharedNameSamples : List (Measurement × Binary64) :=
  let window := Window.ofMinutes 5 fiveMinutes_lt
  [(Query.containerCpu Query.Component.distributor window Query.Component.distributor, .nan),
    (Query.containerHeap Query.Component.querier Query.Component.querier, .zero),
    (Query.containerCpu Query.Component.compactor window Query.Component.compactor,
      .infinite true)]

theorem sharedNameSamples_mem :
    ∀ sample ∈ sharedNameSamples, sample.1 ∈ Query.Catalog.all (Window.ofMinutes 5) := by
  have hresource (job label : String) (hjob : (job, label) ∈ Query.Component.all)
      (m : Measurement) (hm : m ∈ Query.Catalog.resources job (Window.ofMinutes 5) label) :
      m ∈ Query.Catalog.all (Window.ofMinutes 5) :=
    List.mem_append_right _ (List.mem_flatMap.mpr ⟨_, hjob, hm⟩)
  intro sample hsample
  simp only [sharedNameSamples, List.mem_cons, List.not_mem_nil, or_false] at hsample
  rcases hsample with rfl | rfl | rfl
  · exact hresource _ _ (.head _) _ (.head _)
  · exact hresource _ _ (.tail _ (.tail _ (.head _))) _ (.tail _ (.tail _ (.head _)))
  · exact hresource _ _ (.tail _ (.tail _ (.tail _ (.tail _ (.head _))))) _ (.head _)

theorem writeMeasurements_sharedNameSamples :
    let written := (CsvReporter.mk "live").writeMeasurements
      ((Spec.new []).recordAll sharedNameSamples).measurements liveWorld
    written.1 = ⟨2, 0, 3, 0⟩ ∧
      ∃ content, written.2.files.node? (["bench".toList, "live".toList] ++
          [(csvName "Sum of Container CPU Usage").toList]) = some (.file content) ∧
        valueColumn? content = some ["NaN".toList, "-inf".toList] := by
  have fresh : liveWorld.files.Fresh "live" ["bench".toList, "live".toList] :=
    ⟨rfl, rfl, fun _ => rfl⟩
  obtain ⟨-, -, hfiles, -, hstats⟩ :=
    writeMeasurements_catalog sharedNameSamples_mem [] fresh
  have hnames : (sharedNameSamples.map (·.1.name)).dedup =
      ["Sum of Container Go Memstats Heap Inuse", "Sum of Container CPU Usage"] := by decide
  rw [hnames] at hfiles hstats
  exact ⟨hstats, hfiles "Sum of Container CPU Usage" (by simp)⟩

end BenchReport.CsvReporter
