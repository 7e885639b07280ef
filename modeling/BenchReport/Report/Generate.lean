import BenchReport.Report.Readme
import BenchReport.Report.Run

/-! A report on benchmark runs: the page that compares them, above their directories. -/
namespace BenchReport.Report

def readmeFile : String := "README.md"

/-- Where the page on runs in directories goes: into the deepest one that holds them all. -/
def readmePath (dirs : List String) : String :=
  Path.join ((Path.commonParent? dirs).getD "") readmeFile

/-- The page on runs in directories and how many groups it shows. -/
def page (files : FileTree) (dirs : List String) (template : String) :
    Told (Except ReportError (String × Nat)) :=
  if dirs.isEmpty then (.error .noRuns, [])
  else
    match Run.loadAll files dirs with
    | (.error e, told) => (.error e, told)
    | (.ok runs, told) =>
      let groups := Group.ofRuns runs
      match renderPage template runs.length groups with
      | .error .template => (.error .template, told)
      | .error (.rendering _) => (.error .rendering, told)
      | .ok text => (.ok (text, groups.length), told)

/-- A finished report: the path of its page, and the files with it. -/
structure Generated where
  path : String
  files : FileTree

def generate (files : FileTree) (dirs : List String) (template : String) :
    Told (Except ReportError Generated) :=
  match page files dirs template with
  | (.error e, told) => (.error e, told)
  | (.ok (text, groups), told) =>
    let path := readmePath dirs
    match files.writeText path text with
    | .error e => (.error (.file e), told)
    | .ok files => (.ok ⟨path, files⟩, told ++ [.wroteReport path dirs.length groups])

/-- Makes a report in a world, with the standard template unless another is given, and finds its
path. What was told goes into the log, also where there is no report. -/
def run (world : World) (dirs : List String) (template : Option String) :
    Except ReportError String × World :=
  let (made, told) := generate world.files dirs (template.getD standardTemplate)
  let world := { world with log := world.log ++ told }
  match made with
  | .error e => (.error e, world)
  | .ok report => (.ok report.path, { world with files := report.files })

end BenchReport.Report
