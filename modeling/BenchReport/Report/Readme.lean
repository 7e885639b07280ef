import BenchReport.Page.Render
import BenchReport.Report.View

/-! The page of a report: its standard template and its rendering. -/
namespace BenchReport.Report

def tag (content : String) : String := "\x7b\x7b" ++ content ++ "\x7d\x7d"

/-- What the standard template repeats for each group. -/
def groupTemplate : String :=
  "## " ++ tag "name" ++ "\n\nUnits: " ++ tag "units" ++ "\n\n" ++
  "| Run | Samples | Min | Mean | Max |\n|-----|---------|-----|------|-----|\n" ++
  tag "#each runs" ++ "\n| " ++ tag "description" ++ " | " ++ tag "samples" ++ " | " ++ tag "min" ++
  " | " ++ tag "mean" ++ " | " ++ tag "max" ++ " |\n" ++ tag "/each" ++ "\n\n" ++
  "| Run |" ++ tag "#each minutes" ++ " " ++ tag "this" ++ " min |" ++ tag "/each" ++ "\n" ++
  "|-----|" ++ tag "#each minutes" ++ "---|" ++ tag "/each" ++ "\n" ++
  tag "#each runs" ++ "\n| " ++ tag "description" ++ " |" ++ tag "#each values" ++ " " ++
  tag "this" ++ " |" ++ tag "/each" ++ "\n" ++ tag "/each" ++ "\n\n"

/-- The template of a report unless another is given: a table of contents, then for each group its
statistics and its values. -/
def standardTemplate : String :=
  "# Loki Benchmark Report\n\nRuns compared: " ++ tag "run_count" ++ "\n\n" ++
  "## Table of Contents\n\n" ++
  tag "#each measurements" ++ "\n- [" ++ tag "name" ++ "](#" ++ tag "anchor" ++ ")\n" ++
  tag "/each" ++ "\n\n" ++
  tag "#each measurements" ++ "\n" ++ groupTemplate ++ tag "/each" ++ "\n"

/-- Why there is no page. -/
inductive PageError
  | template
  | rendering (fault : Page.Fault)
  deriving DecidableEq

/-- The page that a template makes of groups of so many runs. -/
def renderPage (template : String) (runCount : Nat) (groups : List Group) :
    Except PageError String :=
  match Page.parse? template with
  | none => .error .template
  | some page =>
    match Page.Template.render page (pageData runCount groups) with
    | .ok text => .ok text
    | .error fault => .error (.rendering fault)

end BenchReport.Report
