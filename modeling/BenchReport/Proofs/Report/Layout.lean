import BenchReport.Proofs.Page.Showing
import BenchReport.Proofs.Page.Spelling
import BenchReport.Proofs.Report.Extremes
import BenchReport.Proofs.Report.Grouping
import BenchReport.Proofs.Text.ByteOrder
import BenchReport.Report.Readme

/-!
The layout of a report. The standard template shows a document that is told here without any
template, row by row; names, units and descriptions stand in it as they are.
-/
namespace BenchReport.Report

open Page (Part Shows)

/-! ## The document -/

def tableRow (cells : List String) : String :=
  "|" ++ String.join (cells.map fun cell => " " ++ cell ++ " |") ++ "\n"

/-- The entry of a group in the table of contents. -/
def contentsLine (group : Group) : String :=
  "- [" ++ group.name ++ "](#" ++ anchor group.name ++ ")\n"

def statisticCells (run : RunSeries) : List String :=
  match run.stats with
  | some stats => [twoDecimals stats.min, twoDecimals stats.mean, twoDecimals stats.max]
  | none => ["-", "-", "-"]

def statisticsRow (run : RunSeries) : String :=
  tableRow (run.description :: toString run.values.length :: statisticCells run)

def valuesRow (run : RunSeries) : String :=
  tableRow (run.description :: run.values.map twoDecimals)

/-- The greatest number of samples of a run. -/
def longestCount (group : Group) : Nat :=
  (group.runs.map fun run => run.values.length).max?.getD 0

/-- The minutes of the samples of the longest run. -/
def minutes (group : Group) : List Nat :=
  (List.range (longestCount group)).map fun i => 3 * (i + 1)

def minutesHeader (group : Group) : String :=
  tableRow ("Run" :: (minutes group).map fun minute => toString minute ++ " min") ++
    "|-----|" ++ String.join ((minutes group).map fun _ => "---|") ++ "\n"

def groupSection (group : Group) : String :=
  "## " ++ group.name ++ "\n\nUnits: " ++ group.units ++ "\n\n" ++
    tableRow ["Run", "Samples", "Min", "Mean", "Max"] ++
    "|-----|---------|-----|------|-----|\n" ++
    String.join (group.runs.map statisticsRow) ++ "\n" ++
    minutesHeader group ++ String.join (group.runs.map valuesRow) ++ "\n"

def document (runCount : Nat) (groups : List Group) : String :=
  "# Loki Benchmark Report\n\nRuns compared: " ++ toString runCount ++
    "\n\n## Table of Contents\n\n" ++ String.join (groups.map contentsLine) ++ "\n" ++
    String.join (groups.map groupSection)

/-! ## The standard template -/

section

open Page.Element (words named loop)

def contentsPage : Page.Template :=
  [words "- [", named "name", words "](#", named "anchor", words ")\n"]

def statisticsPage : Page.Template :=
  [words "| ", named "description", words " | ", named "samples", words " | ", named "min",
    words " | ", named "mean", words " | ", named "max", words " |\n"]

def valuesPage : Page.Template :=
  [words "| ", named "description", words " |",
    loop "values" [words " ", named "this", words " |"], words "\n"]

def groupPage : Page.Template :=
  [words "## ", named "name", words "\n\nUnits: ", named "units",
    words "\n\n| Run | Samples | Min | Mean | Max |\n|-----|---------|-----|------|-----|\n",
    loop "runs" statisticsPage, words "\n| Run |",
    loop "minutes" [words " ", named "this", words " min |"], words "\n|-----|",
    loop "minutes" [words "---|"], words "\n", loop "runs" valuesPage, words "\n"]

/-- The standard template as a tree: of a line on which the tag of a loop stands alone, nothing is
left. -/
def standardPage : Page.Template :=
  [words "# Loki Benchmark Report\n\nRuns compared: ", named "run_count",
    words "\n\n## Table of Contents\n\n", loop "measurements" contentsPage, words "\n",
    loop "measurements" groupPage, words ""]

end

section

open Page.Part (words named loop)

def contentsParts : List Part :=
  [words "\n- [", named "name", words "](#", named "anchor", words ")\n"]

def statisticsParts : List Part :=
  [words "\n| ", named "description", words " | ", named "samples", words " | ",
    named "min", words " | ", named "mean", words " | ", named "max", words " |\n"]

def valuesParts : List Part :=
  [words "\n| ", named "description", words " |"] ++
  loop "values" [words " ", named "this", words " |"] ++ [words "\n"]

def groupParts : List Part :=
  [words "\n## ", named "name", words "\n\nUnits: ", named "units",
    words "\n\n| Run | Samples | Min | Mean | Max |\n|-----|---------|-----|------|-----|\n"] ++
  loop "runs" statisticsParts ++ [words "\n\n| Run |"] ++
  loop "minutes" [words " ", named "this", words " min |"] ++ [words "\n|-----|"] ++
  loop "minutes" [words "---|"] ++ [words "\n"] ++ loop "runs" valuesParts ++
  [words "\n\n"]

/-- The source of the standard template, part by part. -/
def standardParts : List Part :=
  [words "# Loki Benchmark Report\n\nRuns compared: ", named "run_count",
    words "\n\n## Table of Contents\n\n"] ++
  loop "measurements" contentsParts ++ [words "\n\n"] ++
  loop "measurements" groupParts ++ [words "\n"]

end

set_option maxRecDepth 10000 in
theorem toList_standardTemplate : standardTemplate.toList = Page.spell standardParts := by
  unfold standardTemplate groupTemplate tag
  simp only [String.toList_append, Text.toList_literal rfl]
  rfl

set_option maxRecDepth 10000 in
theorem spellable_standardParts : Page.Spellable standardParts := by decide

set_option maxRecDepth 10000 in
theorem draft_standardParts :
    (Page.pieces [] standardParts).foldlM Page.Draft.add? .empty =
      some ⟨standardPage.reverse, [], false, false⟩ := by rfl

theorem parse?_standardTemplate : Page.parse? standardTemplate = some standardPage := by
  have hparse := Page.parse?_spell spellable_standardParts toList_standardTemplate
    draft_standardParts rfl
  exact hparse.trans (congrArg some (List.reverse_reverse standardPage))

/-! ## What the parts of the template show -/

theorem shows_contents (group : Group) :
    Shows (GroupView.ofGroup group).datum contentsPage (contentsLine group) := by
  have htext : contentsLine group =
      "- [" ++ (group.name ++ ("](#" ++ (anchor group.name ++ (")\n" ++ "")))) := by
    simp [contentsLine, String.append_assoc]
  rw [htext]
  exact .words _ (.member rfl rfl rfl (.words _ (.member rfl rfl rfl (.words _ .nil))))

theorem shows_statistics (run : RunSeries) :
    Shows (RunView.ofSeries run).datum statisticsPage (statisticsRow run) := by
  let view := RunView.ofSeries run
  have htext : statisticsRow run =
      "| " ++ (run.description ++ (" | " ++ (toString run.values.length ++ (" | " ++ (view.min ++
        (" | " ++ (view.mean ++ (" | " ++ (view.max ++ (" |\n" ++ "")))))))))) := by
    rw [statisticsRow, statisticCells]
    cases run with
    | mk description values stats =>
      cases stats <;>
        simp [tableRow, view, RunView.ofSeries, RunView.statistic, noValue, ← String.toList_inj]
  rw [htext]
  exact .words _ (.member rfl rfl rfl (.words _ (.member rfl rfl rfl (.words _
    (.member rfl rfl rfl (.words _ (.member rfl rfl rfl (.words _ (.member rfl rfl rfl
      (.words _ .nil))))))))))

theorem shows_values (run : RunSeries) :
    Shows (RunView.ofSeries run).datum valuesPage (valuesRow run) := by
  have hbar : "| " = "|" ++ " " := rfl
  have htext : valuesRow run =
      "| " ++ (run.description ++ (" |" ++ (String.join ((run.values.map twoDecimals).map
        fun value => " " ++ (value ++ (" |" ++ ""))) ++ ("\n" ++ "")))) := by
    unfold valuesRow tableRow
    simp only [hbar, List.map_cons, String.join_cons, String.append_assoc, String.append_empty]
  rw [htext]
  refine .words _ (.member rfl rfl rfl (.words _ (.loop (by decide) rfl ?_ (.words _ .nil))))
  intro value _
  exact .words _ (.current rfl (.words _ .nil))

/-- The minutes of a group are counted up to its longest run. -/
theorem minutes_ofGroup (group : Group) : (GroupView.ofGroup group).minutes = minutes group := by
  have hlongest : group.longest = longestCount group := by
    rw [Group.longest, longestCount, List.foldl_max, Nat.zero_max]
  simp [GroupView.ofGroup, sampleMinutes, minutes, sampleInterval, hlongest, Nat.mul_comm]

theorem shows_group (group : Group) :
    Shows (GroupView.ofGroup group).datum groupPage (groupSection group) := by
  -- The words of the template run across the borders of lines and cells.
  have hstatistics : "\n\n" ++ (tableRow ["Run", "Samples", "Min", "Mean", "Max"] ++
      "|-----|---------|-----|------|-----|\n") =
        "\n\n| Run | Samples | Min | Mean | Max |\n|-----|---------|-----|------|-----|\n" := rfl
  have hminutes : "\n| Run |" = "\n" ++ ("|" ++ (" " ++ ("Run" ++ " |"))) := rfl
  have hrule : "\n|-----|" = "\n" ++ "|-----|" := rfl
  have hunit : " min |" = " min" ++ " |" := rfl
  have htext : groupSection group =
      "## " ++ (group.name ++ ("\n\nUnits: " ++ (group.units ++
        ("\n\n| Run | Samples | Min | Mean | Max |\n|-----|---------|-----|------|-----|\n" ++
        (String.join (group.runs.map statisticsRow) ++ ("\n| Run |" ++
        (String.join ((minutes group).map fun minute =>
          " " ++ (toString minute ++ (" min |" ++ ""))) ++
        ("\n|-----|" ++ (String.join ((minutes group).map fun _ => "---|" ++ "") ++ ("\n" ++
        (String.join (group.runs.map valuesRow) ++ ("\n" ++ "")))))))))))) := by
    rw [← hstatistics, hminutes, hrule, hunit]
    unfold groupSection minutesHeader
    simp only [String.append_assoc, String.append_empty]
    unfold tableRow
    simp only [List.map_cons, String.join_cons, List.map_map, Function.comp_def,
      String.append_assoc]
  rw [htext, ← minutes_ofGroup]
  have hruns : (GroupView.ofGroup group).runs.map RunView.datum =
      group.runs.map fun run => (RunView.ofSeries run).datum := by
    simp [GroupView.ofGroup, Function.comp_def]
  refine .words _ (.member rfl rfl rfl (.words _ (.member rfl rfl rfl (.words _
    (.loop (by decide) (by rw [← hruns]; rfl) (fun run _ => shows_statistics run) (.words _
      (.loop (by decide) rfl ?_ (.words _ (.loop (by decide) rfl ?_ (.words _
        (.loop (by decide) (by rw [← hruns]; rfl) (fun run _ => shows_values run)
          (.words _ .nil))))))))))))
  · intro minute _
    exact .words _ (.current rfl (.words _ .nil))
  · intro minute _
    exact .words _ .nil

theorem shows_document (runCount : Nat) (groups : List Group) :
    Shows (pageData runCount groups) standardPage (document runCount groups) := by
  have htext : document runCount groups =
      "# Loki Benchmark Report\n\nRuns compared: " ++ (toString runCount ++
        ("\n\n## Table of Contents\n\n" ++ (String.join (groups.map contentsLine) ++ ("\n" ++
        (String.join (groups.map groupSection) ++ ("" ++ "")))))) := by
    unfold document
    simp only [String.append_assoc, String.append_empty]
  rw [htext]
  exact .words _ (.member rfl rfl rfl (.words _
    (.loop (by decide) rfl (fun group _ => shows_contents group) (.words _
      (.loop (by decide) rfl (fun group _ => shows_group group) (.words _ .nil))))))

theorem renderPage_of_parse? {source text : String} {page : Page.Template} {runCount : Nat}
    {groups : List Group} (hparse : Page.parse? source = some page)
    (hrender : Page.Template.render page (pageData runCount groups) = .ok text) :
    renderPage source runCount groups = .ok text := by
  simp only [renderPage, hparse, hrender]

/-- For every number of runs and all groups the standard template shows the document. In the
groups of runs a dash stands exactly where there are no samples. -/
theorem renderPage_standard (runCount : Nat) (groups : List Group) :
    renderPage standardTemplate runCount groups = .ok (document runCount groups) ∧
      ∀ runs : List Run, ∀ group ∈ Group.ofRuns runs, ∀ run ∈ group.runs,
        (run.stats = none ↔ run.values = []) := by
  refine ⟨?_, ?_⟩
  · exact renderPage_of_parse? parse?_standardTemplate (shows_document runCount groups).render
  · intro runs group hgroup run hrun
    rw [Group.ofRuns_eq_gather] at hgroup
    obtain ⟨name, -, rfl⟩ := List.mem_map.mp hgroup
    obtain ⟨record, -, rfl⟩ := List.mem_map.mp hrun
    exact Stats.ofValues_eq_none_iff

/-- A run whose texts read as tags, without a sample. -/
def taggedRuns : List Run :=
  [⟨"out/a", tag "name", [⟨tag "#each runs", "cores | seconds", [], []⟩]⟩]

theorem renderPage_standard_tagged :
    renderPage standardTemplate 1 (Group.ofRuns taggedRuns) =
        .ok (document 1 (Group.ofRuns taggedRuns)) ∧
      ∃ group ∈ Group.ofRuns taggedRuns, group.name = tag "#each runs" ∧
        ∃ run ∈ group.runs, run.values = [] ∧ run.stats = none := by
  obtain ⟨hpage, hstats⟩ := renderPage_standard 1 (Group.ofRuns taggedRuns)
  have hgroup : ⟨tag "#each runs", "cores | seconds", [⟨tag "name", [], none⟩]⟩ ∈
      Group.ofRuns taggedRuns := List.mem_singleton.mpr rfl
  have hrun : (⟨tag "name", [], none⟩ : RunSeries) ∈ [⟨tag "name", [], none⟩] :=
    List.mem_singleton.mpr rfl
  exact ⟨hpage, _, hgroup, rfl, _, hrun, rfl, (hstats taggedRuns _ hgroup _ hrun).mpr rfl⟩

end BenchReport.Report
