import BenchReport.FileName
import BenchReport.Number.FixedPoint
import BenchReport.Reporter.Basic

/-!
Series as CSV files, one each: a row for every sample, with a synthetic timestamp that begins at
the clock and grows by one. What cannot be written is skipped and counted.
-/
namespace BenchReport

/-- Counts of an export. -/
structure ExportStats where
  filesWritten : Nat
  filesSkipped : Nat
  rowsWritten : Nat
  rowsSkipped : Nat
  deriving DecidableEq

namespace Csv

def row (stamp : Int) (value : Binary64) : List Char :=
  (toString stamp).toList ++ ',' :: (value.fixedPoint 6 ++ ['\n'])

def rows (stamp : Int) : List Binary64 → List (List Char)
  | [] => []
  | value :: rest => row stamp value :: rows (stamp + 1) rest

/-- How an opened file takes rows: which of them it accepts, and whether it keeps them. -/
structure Reception where
  accepted : List Bool
  flushed : Bool
  deriving DecidableEq

/-- Rows go through a buffer of so many bytes. -/
def bufferSize : Nat := 8192

/-- Which rows a buffer accepts that cannot be emptied. The first that does not fit fills it. -/
def bufferAccepts : Nat → List (List Char) → List Bool
  | _, [] => []
  | room, row :: rest =>
    if row.length ≤ room then true :: bufferAccepts (room - row.length) rest
    else false :: bufferAccepts 0 rest

/-- A file that takes every row. -/
def takesAll (rows : List (List Char)) : Reception := ⟨rows.map fun _ => true, true⟩

/-- A file that takes no byte: rows stay in the buffer, and only no rows at all are kept. -/
def takesNone (rows : List (List Char)) : Reception := ⟨bufferAccepts bufferSize rows, rows.isEmpty⟩

namespace Reception

def taken (r : Reception) : Nat := r.accepted.count true

def refused (r : Reception) : Nat := r.accepted.count false

end Reception

end Csv

namespace ExportStats

def zero : ExportStats := ⟨0, 0, 0, 0⟩

/-- The counts after one more series: its file could not be opened, or it took the rows in some
way. Rows count as written once the file kept them. -/
def add (stats : ExportStats) : Option Csv.Reception → ExportStats
  | none => { stats with filesSkipped := stats.filesSkipped + 1 }
  | some r =>
    if r.flushed then
      { stats with
        filesWritten := stats.filesWritten + 1
        rowsWritten := stats.rowsWritten + r.taken
        rowsSkipped := stats.rowsSkipped + r.refused }
    else
      { stats with
        filesSkipped := stats.filesSkipped + 1
        rowsSkipped := stats.rowsSkipped + (r.refused + r.taken) }

end ExportStats

/-- Writes the series of a completed spec into a directory. -/
structure CsvReporter where
  reportDir : String
  deriving DecidableEq

namespace CsvReporter

def filePath (reporter : CsvReporter) (name : String) : String :=
  Path.join reporter.reportDir (FileName.baseName name ++ ".csv")

/-- What is told about a series whose file took its rows. -/
def events (name path : String) (r : Csv.Reception) : List Event :=
  List.replicate r.refused (.skippedRow name) ++
    [if r.flushed then .wroteSeries name path r.taken else .cannotFlush name path]

/-- Writes one series; an existing file is replaced. -/
def writeSeries (reporter : CsvReporter) (name : String) (series : Series) (stats : ExportStats)
    (world : World) : ExportStats × World :=
  let path := reporter.filePath name
  let rows := Csv.rows world.clock series.results
  match world.files.openForWriting path with
  | .error _ => (stats.add none, world.tell (.cannotCreate name path))
  | .ok .full =>
    let reception := Csv.takesNone rows
    (stats.add (some reception), { world with log := world.log ++ events name path reception })
  | .ok (.regular place) =>
    let reception := Csv.takesAll rows
    let content := (String.ofList rows.flatten).toByteArray
    (stats.add (some reception),
      { world with
        files := world.files.put place (.file content)
        log := world.log ++ events name path reception })

/-- Writes series in the order of their names, whatever happens to each. -/
def writeEntries (reporter : CsvReporter) : List (String × Series) → ExportStats → World →
    ExportStats × World
  | [], stats, world => (stats, world)
  | (name, series) :: rest, stats, world =>
    let (stats, world) := reporter.writeSeries name series stats world
    writeEntries reporter rest stats world

def writeMeasurements (reporter : CsvReporter) (measurements : NameMap Series) (world : World) :
    ExportStats × World :=
  reporter.writeEntries measurements.entries .zero world

/-- Only a completed spec matters here. -/
def notify (reporter : CsvReporter) (hook : Hook) (world : World) : World :=
  match hook with
  | .specDidComplete spec =>
    let (stats, world) := reporter.writeMeasurements spec.measurements world
    world.tell (.exportedSpec spec.text stats.filesWritten stats.filesSkipped)
  | _ => world

end CsvReporter

end BenchReport
