import BenchReport.Proofs.FileName
import BenchReport.Proofs.Reporter.CsvColumn
import BenchReport.Reporter.Experiment

/-!
What a report directory holds after any series were written to it: every file shows the series
last written under its name, and the experiment file is as it was.
-/
namespace BenchReport

open FileName (csvName)

/-- A directory that is there and empty. -/
structure FileTree.Fresh (tree : FileTree) (dir : String) (place : Place) : Prop where
  leads : tree.joinPlace dir = .ok place
  directory : tree.node? place = some .directory
  empty (name : List Char) : tree.node? (place ++ [name]) = none

/-- The series last written to the file of a name. -/
def Csv.lastWritten (file : List Char) (written : List (String × Series)) : Option Series :=
  (written.reverse.find? fun entry => (csvName entry.1).toList = file).map (·.2)

/-- The series that a file shows; a name of too many bytes is no file. -/
def Csv.shown (written : List (String × Series)) (file : List Char) : Option Series :=
  if FileTree.longestName < FileTree.byteLength file then none else lastWritten file written

/-- A file with the values of a series, or nothing. -/
def Csv.Shows (node : Option FileNode) : Option Series → Prop
  | none => node = none
  | some series =>
    ∃ content, node = some (.file content) ∧
      valueColumn? content = some (printed series.results)

/-- A report directory to which series were written, beside an experiment file or none. -/
structure Csv.Holds (files : FileTree) (dir : String) (place : Place)
    (written : List (String × Series)) (experiment : Option FileNode) : Prop where
  leads : files.joinPlace dir = .ok place
  directory : files.node? place = some .directory
  csv (file : List Char) (h : file ≠ Experiment.fileName.toList) :
    Shows (files.node? (place ++ [file])) (shown written file)
  experiment : files.node? (place ++ [Experiment.fileName.toList]) = experiment

namespace Csv

theorem lastWritten_eq_none_iff {file : List Char} {written : List (String × Series)} :
    lastWritten file written = none ↔ ∀ entry ∈ written, (csvName entry.1).toList ≠ file := by
  rw [lastWritten, Option.map_eq_none_iff, List.find?_eq_none]
  constructor
  · intro h entry hentry
    simpa using h entry (List.mem_reverse.mpr hentry)
  · intro h entry hentry
    simpa using h entry (List.mem_reverse.mp hentry)

theorem lastWritten_append (file : List Char) (first second : List (String × Series)) :
    lastWritten file (first ++ second) =
      (lastWritten file second).or (lastWritten file first) := by
  rw [lastWritten, List.reverse_append, List.find?_append, Option.map_or]
  rfl

theorem lastWritten_concat (file : List Char) (written : List (String × Series)) (name : String)
    (series : Series) :
    lastWritten file (written ++ [(name, series)]) =
      if (csvName name).toList = file then some series else lastWritten file written := by
  have hone : lastWritten file [(name, series)] =
      if (csvName name).toList = file then some series else none := by
    unfold lastWritten
    by_cases h : (csvName name).toList = file
    · simp [h]
    · simp [h]
  rw [lastWritten_append, hone]
  split
  · rfl
  · rfl

theorem shown_eq_some_iff {file : List Char} {written : List (String × Series)}
    {series : Series} :
    shown written file = some series ↔
      FileTree.byteLength file ≤ FileTree.longestName ∧ lastWritten file written = some series := by
  unfold shown
  split
  case isTrue hlong =>
    constructor
    · intro h
      cases h
    · rintro ⟨hshort, -⟩
      exact absurd hlong (Nat.not_lt.mpr hshort)
  case isFalse hshort =>
    rw [and_iff_right (Nat.le_of_not_lt hshort)]

theorem shown_concat_self {name : String}
    (h : ¬FileTree.longestName < FileTree.byteLength (csvName name).toList)
    (written : List (String × Series)) (series : Series) :
    shown (written ++ [(name, series)]) (csvName name).toList = some series := by
  rw [shown, if_neg h, lastWritten_concat, if_pos rfl]

theorem shown_concat_of_ne {name : String} {file : List Char} (h : file ≠ (csvName name).toList)
    (written : List (String × Series)) (series : Series) :
    shown (written ++ [(name, series)]) file = shown written file := by
  rw [shown, shown, lastWritten_concat, if_neg (Ne.symm h)]

theorem shown_concat_long {name : String}
    (h : FileTree.longestName < FileTree.byteLength (csvName name).toList)
    (written : List (String × Series)) (series : Series) (file : List Char) :
    shown (written ++ [(name, series)]) file = shown written file := by
  by_cases hfile : file = (csvName name).toList
  · rw [shown, shown, hfile, if_pos h, if_pos h]
  · exact shown_concat_of_ne hfile written series

theorem ne_fileName_of_csv (stem : List Char) :
    stem ++ ['.', 'c', 's', 'v'] ≠ Experiment.fileName.toList := by
  intro h
  have hlast := congrArg List.getLast? h
  have hcsv : (stem ++ ['.', 'c', 's', 'v']).getLast? = some 'v' := by simp
  have hjson : Experiment.fileName.toList.getLast? = some 'n' := by decide
  rw [hcsv, hjson] at hlast
  exact absurd hlast (by decide)

theorem csvName_ne_fileName (name : String) :
    (csvName name).toList ≠ Experiment.fileName.toList := by
  rw [FileName.csvName_toList]
  exact ne_fileName_of_csv _

theorem Shows.none_or_file {node : Option FileNode} {series : Option Series}
    (h : Shows node series) : node = none ∨ ∃ content, node = some (.file content) := by
  cases series with
  | none => exact .inl h
  | some series =>
    obtain ⟨content, hcontent, -⟩ := h
    exact .inr ⟨content, hcontent⟩

theorem Shows.of_file {content : ByteArray} {series : Option Series}
    (h : Shows (some (.file content)) series) :
    ∃ found, series = some found ∧ valueColumn? content = some (printed found.results) := by
  cases series with
  | none => cases h
  | some found =>
    obtain ⟨other, hother, hcolumn⟩ := h
    cases hother
    exact ⟨found, rfl, hcolumn⟩

section Holds

variable {files : FileTree} {dir : String} {place : Place} {written : List (String × Series)}
  {experiment : Option FileNode} {file : List Char}

theorem Holds.none_or_file (h : Holds files dir place written experiment)
    (hfile : file ≠ Experiment.fileName.toList) :
    files.node? (place ++ [file]) = none ∨
      ∃ content, files.node? (place ++ [file]) = some (.file content) :=
  Shows.none_or_file (h.csv file hfile)

theorem Holds.ne_directory (h : Holds files dir place written experiment)
    (hfile : file ≠ Experiment.fileName.toList) :
    files.node? (place ++ [file]) ≠ some .directory := by
  rcases h.none_or_file hfile with hnode | ⟨content, hnode⟩
  · simp [hnode]
  · simp [hnode]

/-- A file of the directory has the values of the series last written to it. -/
theorem Holds.lastWritten_of_file (h : Holds files dir place written experiment)
    (hfile : file ≠ Experiment.fileName.toList) {content : ByteArray}
    (hnode : files.node? (place ++ [file]) = some (.file content)) :
    ∃ series, FileTree.byteLength file ≤ FileTree.longestName ∧
      lastWritten file written = some series ∧
      valueColumn? content = some (printed series.results) := by
  have hshows := h.csv file hfile
  rw [hnode] at hshows
  obtain ⟨series, hshown, hcolumn⟩ := Shows.of_file hshows
  obtain ⟨hshort, hlast⟩ := shown_eq_some_iff.mp hshown
  exact ⟨series, hshort, hlast, hcolumn⟩

/-- A series last written to a file whose name is short enough stands there. -/
theorem Holds.file_of_lastWritten (h : Holds files dir place written experiment)
    (hfile : file ≠ Experiment.fileName.toList)
    (hshort : FileTree.byteLength file ≤ FileTree.longestName) {series : Series}
    (hlast : lastWritten file written = some series) :
    ∃ content, files.node? (place ++ [file]) = some (.file content) ∧
      valueColumn? content = some (printed series.results) := by
  have hshows := h.csv file hfile
  rwa [shown_eq_some_iff.mpr ⟨hshort, hlast⟩] at hshows

end Holds

/-- An empty directory is one to which nothing was written. -/
theorem holds_of_fresh {files : FileTree} {dir : String} {place : Place}
    (fresh : files.Fresh dir place) : Holds files dir place [] none := by
  refine ⟨fresh.leads, fresh.directory, fun file _ => ?_, fresh.empty _⟩
  have hshown : shown [] file = none := by
    unfold shown
    split
    · rfl
    · rfl
  rw [hshown]
  exact fresh.empty file

/-- Once a file has the values of a series, it shows the series last written under its name. -/
theorem Holds.put_series {files : FileTree} {dir : String} {place : Place}
    {written : List (String × Series)} {experiment : Option FileNode}
    (h : Holds files dir place written experiment) {name : String} {series : Series}
    {content : ByteArray} (hcontent : valueColumn? content = some (printed series.results))
    (hshort : ¬FileTree.longestName < FileTree.byteLength (csvName name).toList) :
    Holds (files.put (place ++ [(csvName name).toList]) (.file content)) dir place
      (written ++ [(name, series)]) experiment := by
  have hstood := h.ne_directory (csvName_ne_fileName name)
  have keeps := FileTree.keeps_put hstood (.file content)
  refine ⟨keeps.joinPlace h.leads, keeps.directory place h.directory, fun file hfile => ?_, ?_⟩
  · rw [FileTree.node?_put_inside]
    by_cases hsame : file = (csvName name).toList
    · rw [if_pos hsame, hsame, shown_concat_self hshort]
      exact ⟨content, rfl, hcontent⟩
    · rw [if_neg hsame, shown_concat_of_ne hsame]
      exact h.csv file hfile
  · rw [FileTree.node?_put_inside, if_neg (csvName_ne_fileName name).symm]
    exact h.experiment

/-- An experiment file leaves the CSV files as they are. -/
theorem Holds.put_experiment {files : FileTree} {dir : String} {place : Place}
    {written : List (String × Series)} (h : Holds files dir place written none)
    (content : ByteArray) :
    Holds (files.put (place ++ [Experiment.fileName.toList]) (.file content)) dir place written
      (some (.file content)) := by
  have hstood : files.node? (place ++ [Experiment.fileName.toList]) ≠ some .directory := by
    simp [h.experiment]
  have keeps := FileTree.keeps_put hstood (.file content)
  refine ⟨keeps.joinPlace h.leads, keeps.directory place h.directory, fun file hfile => ?_, ?_⟩
  · rw [FileTree.node?_put_inside, if_neg hfile]
    exact h.csv file hfile
  · rw [FileTree.node?_put_inside, if_pos rfl]

end Csv

namespace CsvReporter

open Csv

variable {dir : String} {place : Place} {written : List (String × Series)}
  {experiment : Option FileNode}

/-- Writing one more series: its file shows it from then on, unless the name is too long. -/
theorem writeSeries_holds (name : String) (series : Series) (stats : ExportStats) {world : World}
    (h : Holds world.files dir place written experiment) :
    Holds ((CsvReporter.mk dir).writeSeries name series stats world).2.files dir place
      (written ++ [(name, series)]) experiment := by
  have hresolve : world.files.resolve ((CsvReporter.mk dir).filePath name) =
      if FileTree.longestName < FileTree.byteLength (csvName name).toList then .error .longName
      else .ok (place ++ [(csvName name).toList]) :=
    FileTree.resolve_join_directory h.leads h.directory (FileName.csvName_plain name)
  by_cases hlong : FileTree.longestName < FileTree.byteLength (csvName name).toList
  · have hopen : world.files.openForWriting ((CsvReporter.mk dir).filePath name) =
        .error .longName := by
      rw [FileTree.openForWriting, hresolve, if_pos hlong]
    unfold writeSeries
    simp only [hopen]
    -- No file changes, and a name that is too long is not shown anyway.
    refine ⟨h.leads, h.directory, fun file hfile => ?_, h.experiment⟩
    rw [shown_concat_long hlong]
    exact h.csv file hfile
  · have hopen : world.files.openForWriting ((CsvReporter.mk dir).filePath name) =
        .ok (.regular (place ++ [(csvName name).toList])) := by
      rw [FileTree.openForWriting, hresolve, if_neg hlong]
      rcases h.none_or_file (csvName_ne_fileName name) with hnode | ⟨content, hnode⟩
      · simp only [hnode]
      · simp only [hnode]
    unfold writeSeries
    simp only [hopen]
    exact h.put_series (valueColumn?_fileContent world.clock series.results) hlong

theorem writeEntries_holds (entries : List (String × Series)) (stats : ExportStats)
    {world : World} (h : Holds world.files dir place written experiment) :
    Holds ((CsvReporter.mk dir).writeEntries entries stats world).2.files dir place
      (written ++ entries) experiment := by
  induction entries generalizing written stats world with
  | nil =>
    rw [List.append_nil]
    exact h
  | cons entry rest ih =>
    obtain ⟨name, series⟩ := entry
    have hfirst := writeSeries_holds name series stats h
    have hrest := ih ((CsvReporter.mk dir).writeSeries name series stats world).1 hfirst
    rwa [List.append_assoc, List.singleton_append] at hrest

/-- A completed spec adds its series in the order of their names. -/
theorem notify_holds (spec : Spec) {world : World}
    (h : Holds world.files dir place written experiment) :
    Holds ((CsvReporter.mk dir).notify (.specDidComplete spec) world).files dir place
      (written ++ spec.measurements.entries) experiment :=
  writeEntries_holds spec.measurements.entries .zero h

end CsvReporter

end BenchReport
