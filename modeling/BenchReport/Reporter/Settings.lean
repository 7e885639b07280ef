import BenchReport.Reporter.Fanout

/-! Which reporters run and where they write: read from a file, then overridden by variables. -/
namespace BenchReport

open Json

/-- The settings of reporters. -/
structure Settings where
  reportDir : String
  csv : Bool
  json : Bool
  deriving DecidableEq

namespace Settings

/-- What holds where nothing is set. -/
def standard : Settings := ⟨"./reports", true, true⟩

def toJson (s : Settings) : Value :=
  .object [("report_dir", .string s.reportDir), ("csv", .bool s.csv), ("json", .bool s.json)]

/-- Settings as far as they are read. -/
structure Draft where
  reportDir : Option String
  csv : Option Bool
  json : Option Bool

/-- Settings in a file; every one has a standard value. -/
def recordType : RecordType Draft Settings where
  title := "ReporterConfig"
  fields :=
    [.ofOption "report_dir" Decoder.path Draft.reportDir fun x d => { d with reportDir := some x },
      .ofOption "csv" Decoder.bool Draft.csv fun x d => { d with csv := some x },
      .ofOption "json" Decoder.bool Draft.json fun x d => { d with json := some x }]
  draft := ⟨none, none, none⟩
  finish draft :=
    .ok ⟨draft.reportDir.getD standard.reportDir, draft.csv.getD standard.csv,
      draft.json.getD standard.json⟩

def decoder : Decoder Settings := recordType.decode

def load (files : FileTree) (path : String) : Except ReadError Settings :=
  files.readJson decoder path

/-- The settings of a file, or the standard ones where it cannot be read; a file that is there
but unreadable is told about. -/
def loadOrStandard (files : FileTree) (path : String) : Settings × List Event :=
  match load files path with
  | .ok settings => (settings, [])
  | .error (.file .notFound) => (standard, [])
  | .error _ => (standard, [.ignoredSettings path])

def dirVariable : String := "LOKIBENCH_REPORT_DIR"

/-- The variable that turns CSV files on or off. -/
def csvVariable : String := "LOKIBENCH_CSV_REPORTER"

/-- The variable that turns the experiment file on or off. -/
def jsonVariable : String := "LOKIBENCH_JSON_REPORTER"

/-- The values of environment variables. -/
abbrev Environment := String → Option String

/-- A truth value exactly as it is written. -/
def flag? (text : Option String) : Option Bool :=
  if text = some "true" then some true else if text = some "false" then some false else none

def nonempty? (text : Option String) : Option String :=
  match text with
  | some s => if s.isEmpty then none else some s
  | none => none

/-- Each setting gives way to its variable, unless that is absent or makes no sense. -/
def override (s : Settings) (env : Environment) : Settings where
  reportDir := (nonempty? (env dirVariable)).getD s.reportDir
  csv := (flag? (env csvVariable)).getD s.csv
  json := (flag? (env jsonVariable)).getD s.json

/-- What is wrong with settings. -/
inductive Flaw
  | noDirectory (reportDir : String)
  deriving DecidableEq

def Flaw.message : Flaw → String
  | noDirectory reportDir =>
    "Configuration error: report directory " ++ reportDir ++ " does not exist"

/-- The report directory has to be there. -/
def validate (s : Settings) (files : FileTree) : Except Flaw Unit :=
  if files.isDirectory s.reportDir then .ok () else .error (.noDirectory s.reportDir)

def build (s : Settings) : Reporters :=
  .group ((if s.csv then [.leaf (.csv ⟨s.reportDir⟩)] else []) ++
    (if s.json then [.leaf (.experiment (.new s.reportDir))] else []))

end Settings

end BenchReport
