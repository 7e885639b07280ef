import BenchReport.Proofs.Experiment.Codec
import BenchReport.Proofs.Export.Run

/-!
Which series an export keeps. Series share a file if their names have one base name, and the file
keeps the last of them: by experiment, then by name, then by place in the experiment.
-/
namespace BenchReport.Export

open Csv
open FileName (baseName csvName)

/-- The last series of its name in a list. -/
def LastOfName (measurements : List Series) (series : Series) : Prop :=
  ∃ before after, measurements = before ++ series :: after ∧
    ∀ other ∈ after, other.name ≠ series.name

/-- The series of an experiment that stands in its file once the experiment is exported. -/
structure LastOfFile (experiment : Experiment) (series : Series) : Prop where
  last : LastOfName experiment.measurements series
  greatest (other : Series) (h : other ∈ experiment.measurements) :
    baseName other.name = baseName series.name → other.name ≤ series.name

/-- A series that stands in its file once every experiment is exported. -/
def Kept (experiments : List Experiment) (series : Series) : Prop :=
  ∃ before experiment after, experiments = before ++ experiment :: after ∧
    LastOfFile experiment series ∧
    ∀ later ∈ after, ∀ other ∈ later.measurements, baseName other.name ≠ baseName series.name

theorem lastOfName_iff {measurements : List Series} {series : Series} :
    LastOfName measurements series ↔
      measurements.reverse.find? (fun s => s.name = series.name) = some series := by
  simp [NameMap.find?_reverse_eq_some_iff, LastOfName]

theorem mem_exported_self {experiment : Experiment} {series : Series} :
    (series.name, series) ∈ exported experiment ↔
      LastOfName experiment.measurements series := by
  rw [mem_exported, lastOfName_iff]

theorem exists_mem_exported {experiment : Experiment} {series : Series}
    (h : series ∈ experiment.measurements) :
    ∃ other, (series.name, other) ∈ exported experiment := by
  have hfound : (experiment.measurements.reverse.find? fun s => s.name = series.name).isSome := by
    rw [List.find?_isSome]
    exact ⟨series, List.mem_reverse.mpr h, by simp⟩
  obtain ⟨other, hother⟩ := Option.isSome_iff_exists.mp hfound
  exact ⟨other, mem_exported.mpr hother⟩

theorem LastOfName.mem {measurements : List Series} {series : Series}
    (h : LastOfName measurements series) : series ∈ measurements := by
  obtain ⟨before, after, rfl, -⟩ := h
  exact List.mem_append_right _ List.mem_cons_self

theorem csvName_eq_iff {a b : String} {file : List Char} (h : (csvName b).toList = file) :
    (csvName a).toList = file ↔ baseName a = baseName b := by
  rw [← h, String.toList_inj]
  exact FileName.csvName_inj

/-- The names are written in order, so the last written to a file is the greatest. -/
theorem lastOfFile_of_lastWritten {experiment : Experiment} {file : List Char} {series : Series}
    (h : lastWritten file (exported experiment) = some series) :
    LastOfFile experiment series ∧ (csvName series.name).toList = file := by
  obtain ⟨entry, hfind, rfl⟩ := Option.map_eq_some_iff.mp h
  obtain ⟨-, hname⟩ := name_of_mem_exported (List.mem_reverse.mp (List.mem_of_find?_eq_some hfind))
  obtain ⟨name, series⟩ := entry
  obtain rfl : series.name = name := hname
  obtain ⟨hself, before, after, hsplit, hafter⟩ := NameMap.find?_reverse_eq_some_iff.mp hfind
  have hfile : (csvName series.name).toList = file := by simpa using hself
  have hmem : (series.name, series) ∈ exported experiment := by
    rw [hsplit]
    exact List.mem_append_right _ List.mem_cons_self
  refine ⟨⟨mem_exported_self.mp hmem, fun other hother hbase => ?_⟩, hfile⟩
  obtain ⟨found, hfound⟩ := exists_mem_exported hother
  apply NameMap.le_of_entries hsplit (List.mem_map_of_mem hfound)
  -- What was written later went to other files.
  rintro later hlater hsame
  have hdiffer := hafter later hlater
  rw [decide_eq_false_iff_not, hsame] at hdiffer
  exact hdiffer ((csvName_eq_iff hfile).mpr hbase)

theorem LastOfFile.unique {experiment : Experiment} {a b : Series} (ha : LastOfFile experiment a)
    (hb : LastOfFile experiment b) (h : baseName a.name = baseName b.name) : a = b := by
  have hname : a.name = b.name :=
    Std.le_antisymm (hb.greatest a ha.last.mem h) (ha.greatest b hb.last.mem h.symm)
  have hfindA := lastOfName_iff.mp ha.last
  have hfindB := lastOfName_iff.mp hb.last
  rw [hname] at hfindA
  exact Option.some.inj (hfindA.symm.trans hfindB)

theorem lastWritten_exported_iff {experiment : Experiment} {file : List Char} {series : Series} :
    lastWritten file (exported experiment) = some series ↔
      LastOfFile experiment series ∧ (csvName series.name).toList = file := by
  constructor
  · exact lastOfFile_of_lastWritten
  · rintro ⟨hlast, hfile⟩
    have hmem := mem_exported_self.mpr hlast.last
    cases hshown : lastWritten file (exported experiment) with
    | none => exact absurd hfile (lastWritten_eq_none_iff.mp hshown (series.name, series) hmem)
    | some other =>
      obtain ⟨hother, hotherFile⟩ := lastOfFile_of_lastWritten hshown
      rw [hother.unique hlast ((csvName_eq_iff hfile).mp hotherFile)]

theorem lastWritten_all_eq_none_iff {experiments : List Experiment} {file : List Char} :
    lastWritten file (experiments.flatMap exported) = none ↔
      ∀ experiment ∈ experiments, ∀ series ∈ experiment.measurements,
        (csvName series.name).toList ≠ file := by
  rw [lastWritten_eq_none_iff]
  constructor
  · intro h experiment hexperiment series hseries
    obtain ⟨other, hother⟩ := exists_mem_exported hseries
    exact h (series.name, other) (List.mem_flatMap.mpr ⟨experiment, hexperiment, hother⟩)
  · intro h entry hentry
    obtain ⟨experiment, hexperiment, hmem⟩ := List.mem_flatMap.mp hentry
    obtain ⟨hseries, hname⟩ := name_of_mem_exported hmem
    rw [← hname]
    exact h experiment hexperiment entry.2 hseries

theorem kept_cons {experiment : Experiment} {rest : List Experiment} {series : Series} :
    Kept (experiment :: rest) series ↔
      Kept rest series ∨ LastOfFile experiment series ∧
        ∀ later ∈ rest, ∀ other ∈ later.measurements,
          baseName other.name ≠ baseName series.name := by
  constructor
  · rintro ⟨before, found, after, hsplit, hlast, hafter⟩
    cases before with
    | nil =>
      obtain ⟨rfl, rfl⟩ := List.cons.inj hsplit
      exact .inr ⟨hlast, hafter⟩
    | cons first before =>
      obtain ⟨rfl, rfl⟩ := List.cons.inj hsplit
      exact .inl ⟨before, found, after, rfl, hlast, hafter⟩
  · rintro (⟨before, found, after, rfl, hlast, hafter⟩ | ⟨hlast, hafter⟩)
    · exact ⟨experiment :: before, found, after, rfl, hlast, hafter⟩
    · exact ⟨[], experiment, rest, rfl, hlast, hafter⟩

/-- The series last written to a file by an export is the one that is kept there. -/
theorem lastWritten_all_iff {experiments : List Experiment} {file : List Char}
    {series : Series} :
    lastWritten file (experiments.flatMap exported) = some series ↔
      Kept experiments series ∧ (csvName series.name).toList = file := by
  induction experiments with
  | nil =>
    constructor
    · intro h
      cases h
    · rintro ⟨⟨before, found, after, hsplit, -⟩, -⟩
      cases before <;> cases hsplit
  | cons experiment rest ih =>
    rw [List.flatMap_cons, lastWritten_append, Option.or_eq_some_iff, ih, kept_cons,
      lastWritten_exported_iff, lastWritten_all_eq_none_iff]
    constructor
    · rintro (⟨hkept, hfile⟩ | ⟨hnone, hlast, hfile⟩)
      · exact ⟨.inl hkept, hfile⟩
      · refine ⟨.inr ⟨hlast, fun later hlater other hother hbase => ?_⟩, hfile⟩
        exact hnone later hlater other hother ((csvName_eq_iff hfile).mpr hbase)
    · rintro ⟨hkept | ⟨hlast, hafter⟩, hfile⟩
      · exact .inl ⟨hkept, hfile⟩
      · refine .inr ⟨fun later hlater other hother hsame => ?_, hlast, hfile⟩
        exact hafter later hlater other hother ((csvName_eq_iff hfile).mp hsame)

/-- A CSV file of a directory shows values in its column. -/
def Displayed (files : FileTree) (place : Place) (column : List (List Char)) : Prop :=
  ∃ stem content, files.node? (place ++ [stem ++ ['.', 'c', 's', 'v']]) = some (.file content) ∧
    valueColumn? content = some column

/-- After an export the columns of the CSV files are those of the kept series. -/
theorem displayed_iff {files : FileTree} {dir : String} {place : Place}
    {experiments : List Experiment} {node : Option FileNode}
    (h : Holds files dir place (experiments.flatMap exported) node)
    (column : List (List Char)) :
    Displayed files place column ↔
      ∃ kept, Kept experiments kept ∧
        FileTree.byteLength (csvName kept.name).toList ≤ FileTree.longestName ∧
        printed kept.results = column := by
  constructor
  · rintro ⟨stem, content, hnode, hcolumn⟩
    obtain ⟨kept, hshort, hlast, hprinted⟩ := h.lastWritten_of_file (ne_fileName_of_csv stem) hnode
    obtain ⟨hkept, hfile⟩ := lastWritten_all_iff.mp hlast
    rw [hcolumn, Option.some.injEq] at hprinted
    refine ⟨kept, hkept, ?_, hprinted.symm⟩
    rw [hfile]
    exact hshort
  · rintro ⟨kept, hkept, hshort, rfl⟩
    have hlast := lastWritten_all_iff.mpr ⟨hkept, rfl⟩
    obtain ⟨content, hnode, hcolumn⟩ :=
      h.file_of_lastWritten (csvName_ne_fileName kept.name) hshort hlast
    refine ⟨(baseName kept.name).toList, content, ?_, hcolumn⟩
    rw [← FileName.csvName_toList]
    exact hnode

/-- An export into an empty directory shows the values of a series exactly if they are those of a
kept series whose file name is short enough. -/
theorem run_displays_iff {world : World} {env : Settings.Environment} {input : String}
    {reportDir : Option String} {configPath : String} {made : FileTree} {place : Place}
    {experiments : List Experiment}
    (hmade : world.files.createDirectories
      (settings world.files env reportDir configPath).1.reportDir = .ok made)
    (fresh : made.Fresh (settings world.files env reportDir configPath).1.reportDir place)
    (hload : Experiment.load made input = .ok experiments) :
    let after := run world env input reportDir configPath
    (∃ count, after.1 = .ok count) ∧
      ∀ experiment ∈ experiments, ∀ series ∈ experiment.measurements,
        (Displayed after.2.files place (printed series.results) ↔
          ∃ kept, Kept experiments kept ∧
            FileTree.byteLength (csvName kept.name).toList ≤ FileTree.longestName ∧
            printed kept.results = printed series.results) := by
  intro after
  obtain ⟨count, hcount, hholds⟩ := run_holds hmade fresh hload
  exact ⟨⟨count, hcount⟩, fun _ _ series _ => displayed_iff hholds (printed series.results)⟩

/-- A working directory with an experiment file only. -/
def oneFileWorld (experiments : List Experiment) : World :=
  .ofFiles ⟨["bench".toList], [(["bench".toList], .directory),
    (["bench".toList, "measurements.json".toList],
      .file (Experiment.fileJson experiments).prettyText.toByteArray)]⟩ 0

/-- The files once the report directory is made. -/
def oneFileMade (experiments : List Experiment) : FileTree :=
  (oneFileWorld experiments).files.put ["bench".toList, "out".toList] .directory

theorem createDirectories_oneFile (experiments : List Experiment) :
    (oneFileWorld experiments).files.createDirectories
      (settings (oneFileWorld experiments).files (fun _ => none) (some "out")
        "lokibench.json").1.reportDir = .ok (oneFileMade experiments) := by
  have hdir : (settings (oneFileWorld experiments).files (fun _ => none) (some "out")
      "lokibench.json").1.reportDir = "out" := rfl
  rw [hdir]
  rfl

theorem oneFileMade_fresh (experiments : List Experiment) :
    (oneFileMade experiments).Fresh "out" ["bench".toList, "out".toList] :=
  ⟨rfl, rfl, fun _ => rfl⟩

theorem load_oneFileMade (experiments : List Experiment) :
    Experiment.load (oneFileMade experiments) "measurements.json" = .ok experiments := by
  have hplace : (oneFileMade experiments).resolve "measurements.json" =
      .ok ["bench".toList, "measurements.json".toList] := rfl
  exact Experiment.load_file hplace rfl

/-- A sample of the number one. -/
def spacedRate : Series :=
  ⟨"push rate", "ops", ["distributor"], [.finite false ⟨1023 * 2 ^ 52, by decide⟩]⟩

/-- A sample of the number two, under a name with the same file. -/
def underscoredRate : Series :=
  ⟨"push_rate", "ops", ["distributor"], [.finite false ⟨1024 * 2 ^ 52, by decide⟩]⟩

/-- An experiment with two measurements that share a file. -/
def twoRates : Experiment := ⟨"suite", [spacedRate, underscoredRate]⟩

theorem underscoredRate_kept : Kept [twoRates] underscoredRate := by
  have hgreatest : ∀ other ∈ twoRates.measurements,
      baseName other.name = baseName underscoredRate.name →
        other.name ≤ underscoredRate.name := by
    intro other hother _
    rcases List.mem_cons.mp hother with rfl | hother
    · decide
    · obtain rfl := List.mem_singleton.mp hother
      exact Std.le_refl _
  refine ⟨[], twoRates, [], rfl, ⟨⟨[spacedRate], [], rfl, ?_⟩, hgreatest⟩, ?_⟩
  · intro other hother
    cases hother
  · intro later hlater
    cases hlater

theorem run_displays_underscoredRate :
    Displayed (run (oneFileWorld [twoRates]) (fun _ => none) "measurements.json" (some "out")
        "lokibench.json").2.files ["bench".toList, "out".toList]
      (printed underscoredRate.results) := by
  have hmade := createDirectories_oneFile [twoRates]
  have h := run_displays_iff hmade (oneFileMade_fresh [twoRates]) (load_oneFileMade [twoRates])
  exact (h.2 twoRates List.mem_cons_self underscoredRate
    (List.mem_cons_of_mem _ (List.mem_singleton.mpr rfl))).mpr
      ⟨underscoredRate, underscoredRate_kept, by decide, rfl⟩

/-- A sample of the number two, under the name of the first series. -/
def doubledRate : Series :=
  ⟨"push rate", "ops", ["distributor"], [.finite false ⟨1024 * 2 ^ 52, by decide⟩]⟩

/-- Two experiments that measured under one name. -/
def twoSuites : List Experiment := [⟨"first", [spacedRate]⟩, ⟨"second", [doubledRate]⟩]

theorem kept_twoSuites {series : Series} (h : Kept twoSuites series) : series = doubledRate := by
  rcases kept_cons.mp h with hrest | ⟨hlast, hlater⟩
  · rcases kept_cons.mp hrest with ⟨before, found, after, hsplit, -⟩ | ⟨hlast, -⟩
    · cases before <;> cases hsplit
    · exact List.mem_singleton.mp hlast.last.mem
  · obtain rfl := List.mem_singleton.mp hlast.last.mem
    exact absurd rfl (hlater ⟨"second", [doubledRate]⟩ List.mem_cons_self doubledRate
      List.mem_cons_self)

/-- Although every file can be made, the values of a series may stand in no file: a later
experiment that measured under the same name writes over them. -/
theorem run_loses_series :
    ¬∀ (world : World) (env : Settings.Environment) (input : String)
      (reportDir : Option String) (configPath : String) (made : FileTree) (place : Place)
      (experiments : List Experiment),
      world.files.createDirectories
        (settings world.files env reportDir configPath).1.reportDir = .ok made →
      made.Fresh (settings world.files env reportDir configPath).1.reportDir place →
      Experiment.load made input = .ok experiments →
      (∀ experiment ∈ experiments, ∀ series ∈ experiment.measurements,
        FileTree.byteLength (csvName series.name).toList ≤ FileTree.longestName) →
      ∀ experiment ∈ experiments, ∀ series ∈ experiment.measurements,
        Displayed (run world env input reportDir configPath).2.files place
          (printed series.results) := by
  intro h
  have hmade := createDirectories_oneFile twoSuites
  have hfresh := oneFileMade_fresh twoSuites
  have hload := load_oneFileMade twoSuites
  have hshort : ∀ experiment ∈ twoSuites, ∀ series ∈ experiment.measurements,
      FileTree.byteLength (csvName series.name).toList ≤ FileTree.longestName := by decide
  have hdisplayed := h (oneFileWorld twoSuites) (fun _ => none) "measurements.json" (some "out")
    "lokibench.json" _ _ _ hmade hfresh hload hshort ⟨"first", [spacedRate]⟩ List.mem_cons_self
    spacedRate List.mem_cons_self
  obtain ⟨count, -, hholds⟩ := run_holds hmade hfresh hload
  obtain ⟨kept, hkept, -, hprinted⟩ := (displayed_iff hholds _).mp hdisplayed
  have hdiffer : printed doubledRate.results ≠ printed spacedRate.results := by
    decide +kernel
  rw [kept_twoSuites hkept] at hprinted
  exact hdiffer hprinted

end BenchReport.Export
