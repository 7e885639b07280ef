import BenchReport.Report.Generate

/-!
A page is made in stages: whether there are directories at all, the files of each in turn, the
template, the page itself. The first stage that fails gives the error.
-/
namespace BenchReport.Report

namespace Run

variable {files : FileTree} {dirs : List String} {runs : List Run}

/-- The first directory is loaded before the others are looked at. -/
theorem loadAll_cons (files : FileTree) (dir : String) (rest : List String) :
    (loadAll files (dir :: rest)).1 =
      match (load files dir).1, (loadAll files rest).1 with
      | .error e, _ => .error e
      | .ok _, .error e => .error e
      | .ok run, .ok later => .ok (run :: later) := by
  rw [loadAll]
  obtain ⟨result, told⟩ := load files dir
  obtain ⟨others, more⟩ := loadAll files rest
  cases result with
  | error e => rfl
  | ok run => cases others <;> rfl

/-- Runs are loaded if each of their directories is, and there is one for each. -/
theorem loadAll_ok_iff :
    (loadAll files dirs).1 = .ok runs ↔
      dirs.map (fun dir => (load files dir).1) = runs.map .ok := by
  induction dirs generalizing runs with
  | nil => cases runs <;> simp [loadAll]
  | cons dir rest ih =>
    rw [loadAll_cons, List.map_cons]
    cases runs with
    | nil =>
      cases (load files dir).1 with
      | error e => simp
      | ok first => cases (loadAll files rest).1 <;> simp
    | cons run later =>
      rw [List.map_cons, List.cons.injEq, ← ih]
      cases (load files dir).1 with
      | error e => simp
      | ok first => cases (loadAll files rest).1 <;> simp

/-- The runs of directories that can all be loaded. -/
theorem filterMap_load (h : dirs.map (fun dir => (load files dir).1) = runs.map .ok) :
    dirs.filterMap (fun dir => (load files dir).1.toOption) = runs := by
  calc dirs.filterMap (fun dir => (load files dir).1.toOption)
    _ = (dirs.map fun dir => (load files dir).1).filterMap Except.toOption := by
      rw [List.filterMap_map]
      rfl
    _ = runs := by
      rw [h, List.filterMap_map]
      exact List.filterMap_some

end Run

theorem renderPage_template_iff {template : String} {runCount : Nat} {groups : List Group} :
    renderPage template runCount groups = .error .template ↔ Page.parse? template = none := by
  unfold renderPage
  cases Page.parse? template with
  | none => simp
  | some page =>
    dsimp only
    cases Page.Template.render page (pageData runCount groups) <;> simp

/-- A step on the way to a page that can fail. -/
inductive Stage
  | directories
  | measurements (dir : String)
  | experiment (dir : String)
  | description (dir : String)
  | template
  | rendering

/-- A page that a template makes of the runs in directories, one run for each of them. -/
def Rendered (files : FileTree) (dirs : List String) (template text : String) : Prop :=
  ∃ runs, dirs.map (fun dir => (Run.load files dir).1) = runs.map .ok ∧
    renderPage template dirs.length (Group.ofRuns runs) = .ok text

namespace Stage

/-- The stages of one directory. -/
def ofDir (dir : String) : List Stage := [.measurements dir, .experiment dir, .description dir]

/-- All stages, in their order. -/
def all (dirs : List String) : List Stage :=
  .directories :: (dirs.flatMap ofDir ++ [.template, .rendering])

variable (files : FileTree) (dirs : List String) (template : String)

/-- Why a stage fails, by itself. A description that is not there is no failure, and a page is
rendered from the runs that can be loaded. -/
def error? : Stage → Option ReportError
  | .directories => if dirs = [] then some .noRuns else none
  | .measurements dir =>
    match Experiment.load files (Path.join dir Experiment.fileName) with
    | .error e => some (.measurements e)
    | .ok _ => none
  | .experiment dir =>
    match Experiment.load files (Path.join dir Experiment.fileName) with
    | .ok [] => some (.noExperiment (Path.join dir Experiment.fileName))
    | _ => none
  | .description dir =>
    match files.readText (Path.join dir benchmarkFile) with
    | .error .notFound => none
    | .error e => some (.file e)
    | .ok text => if (Yaml.parse? text).isNone then some .description else none
  | .template => if (Page.parse? template).isNone then some .template else none
  | .rendering =>
    let runs := dirs.filterMap fun dir => (Run.load files dir).1.toOption
    match renderPage template dirs.length (Group.ofRuns runs) with
    | .error (.rendering _) => some .rendering
    | _ => none

/-- The error of the first stage that fails. -/
def firstError? : Option ReportError := (all dirs).findSome? (error? files dirs template)

variable {files dirs template} {dir : String} {e : ReportError} {runs : List Run}

theorem readDescription_error_iff :
    (readDescription files (Path.join dir benchmarkFile)).1 = .error e ↔
      error? files dirs template (.description dir) = some e := by
  simp only [readDescription, error?]
  cases files.readText (Path.join dir benchmarkFile) with
  | error cause => cases cause <;> simp
  | ok text => cases hparse : Yaml.parse? text <;> simp [hparse]

/-- Loading a run fails as the first of its stages that fails. -/
theorem load_error_iff :
    (Run.load files dir).1 = .error e ↔
      (ofDir dir).findSome? (error? files dirs template) = some e := by
  simp only [Run.load]
  cases hload : Experiment.load files (Path.join dir Experiment.fileName) with
  | error cause => simp [ofDir, error?, hload]
  | ok experiments =>
    cases experiments with
    | nil => simp [ofDir, error?, hload]
    | cons experiment rest =>
      have hmeasurements : error? files dirs template (.measurements dir) = none := by
        simp only [error?, hload]
      have hexperiment : error? files dirs template (.experiment dir) = none := by
        simp only [error?, hload]
      have hstages : (ofDir dir).findSome? (error? files dirs template) =
          error? files dirs template (.description dir) := by
        cases hlast : error? files dirs template (.description dir) <;>
          simp [ofDir, hmeasurements, hexperiment, hlast]
      rw [hstages, ← readDescription_error_iff]
      cases readDescription files (Path.join dir benchmarkFile) with
      | mk result told => cases result <;> simp

theorem load_ok_stages {run : Run} (h : (Run.load files dir).1 = .ok run) :
    (ofDir dir).findSome? (error? files dirs template) = none := by
  rw [Option.eq_none_iff_forall_ne_some]
  intro e he
  rw [load_error_iff.mpr he] at h
  cases h

/-- Loading runs fails as the first stage that fails, of the first directory where one does. -/
theorem loadAll_error_iff (given : List String) :
    (Run.loadAll files given).1 = .error e ↔
      (given.flatMap ofDir).findSome? (error? files dirs template) = some e := by
  induction given with
  | nil => simp [Run.loadAll]
  | cons dir rest ih =>
    rw [Run.loadAll_cons, List.flatMap_cons, List.findSome?_append]
    cases hload : (Run.load files dir).1 with
    | error cause =>
      have hfirst : (ofDir dir).findSome? (error? files dirs template) = some cause :=
        load_error_iff.mp hload
      simp [hfirst]
    | ok run =>
      have hnone : (ofDir dir).findSome? (error? files dirs template) = none :=
        load_ok_stages hload
      rw [hnone, Option.none_or, ← ih]
      cases (Run.loadAll files rest).1 <;> simp

/-- Once all runs are loaded, only the template and the page can fail. -/
theorem last_stages (h : dirs.map (fun dir => (Run.load files dir).1) = runs.map .ok) :
    [.template, .rendering].findSome? (error? files dirs template) =
      match renderPage template dirs.length (Group.ofRuns runs) with
      | .ok _ => none
      | .error .template => some .template
      | .error (.rendering _) => some .rendering := by
  have htemplate : error? files dirs template .template =
      if (Page.parse? template).isNone then some .template else none := rfl
  have hrendering : error? files dirs template .rendering =
      match renderPage template dirs.length (Group.ofRuns runs) with
      | .error (.rendering _) => some .rendering
      | _ => none := by
    simp only [error?, Run.filterMap_load h]
  rw [List.findSome?_cons, htemplate]
  by_cases hparse : Page.parse? template = none
  · rw [renderPage_template_iff.mpr hparse]
    simp [hparse]
  · have hpage : renderPage template dirs.length (Group.ofRuns runs) ≠ .error .template := by
      rwa [ne_eq, renderPage_template_iff]
    have hsome : (Page.parse? template).isNone = false :=
      Option.isNone_eq_false_iff.mpr (Option.isSome_iff_ne_none.mpr hparse)
    rw [hsome, if_neg Bool.false_ne_true, List.findSome?_cons, hrendering, List.findSome?_nil]
    cases hrender : renderPage template dirs.length (Group.ofRuns runs) with
    | ok text => rfl
    | error cause =>
      cases cause with
      | template => exact absurd hrender hpage
      | rendering fault => rfl

/-- What comes of directories: the runs are loaded, and the template makes a page of them. -/
theorem page_eq (hdirs : dirs ≠ []) :
    (page files dirs template).1 =
      match (Run.loadAll files dirs).1 with
      | .error e => .error e
      | .ok runs =>
        match renderPage template dirs.length (Group.ofRuns runs) with
        | .ok text => .ok (text, (Group.ofRuns runs).length)
        | .error .template => .error .template
        | .error (.rendering _) => .error .rendering := by
  have hgiven : dirs.isEmpty = false := by simpa using hdirs
  rw [page, hgiven, if_neg Bool.false_ne_true]
  cases hload : Run.loadAll files dirs with
  | mk result told =>
    cases result with
    | error e => rfl
    | ok runs =>
      have hruns := Run.loadAll_ok_iff.mp (congrArg Prod.fst hload)
      have hcount : runs.length = dirs.length := by
        simpa using (congrArg List.length hruns).symm
      dsimp only
      rw [hcount]
      cases renderPage template dirs.length (Group.ofRuns runs) with
      | ok text => rfl
      | error cause => cases cause <;> rfl

/-- There is no page because of the first stage that fails. -/
theorem page_error_iff :
    (page files dirs template).1 = .error e ↔ firstError? files dirs template = some e := by
  unfold firstError? all
  rw [List.findSome?_cons, List.findSome?_append]
  by_cases hdirs : dirs = []
  · simp [error?, page, hdirs]
  · have hgiven : error? files dirs template .directories = none := if_neg hdirs
    rw [hgiven, page_eq hdirs]
    cases hload : (Run.loadAll files dirs).1 with
    | error cause =>
      have hfirst : (dirs.flatMap ofDir).findSome? (error? files dirs template) = some cause :=
        (loadAll_error_iff dirs).mp hload
      simp [hfirst]
    | ok runs =>
      have hnone : (dirs.flatMap ofDir).findSome? (error? files dirs template) = none := by
        rw [Option.eq_none_iff_forall_ne_some]
        intro e he
        rw [← loadAll_error_iff, hload] at he
        cases he
      rw [hnone, Option.none_or, last_stages (Run.loadAll_ok_iff.mp hload)]
      dsimp only
      cases renderPage template dirs.length (Group.ofRuns runs) with
      | ok text => simp
      | error cause => cases cause <;> simp

/-- There is a page where all runs are loaded and the template makes it of them. -/
theorem page_ok_iff (hdirs : dirs ≠ []) {text : String} :
    (∃ groups, (page files dirs template).1 = .ok (text, groups)) ↔
      Rendered files dirs template text := by
  rw [page_eq hdirs]
  constructor
  · rintro ⟨groups, h⟩
    cases hload : (Run.loadAll files dirs).1 with
    | error cause => simp [hload] at h
    | ok runs =>
      refine ⟨runs, Run.loadAll_ok_iff.mp hload, ?_⟩
      simp only [hload] at h
      cases hrender : renderPage template dirs.length (Group.ofRuns runs) with
      | error cause => cases cause <;> simp [hrender] at h
      | ok rendered =>
        simp only [hrender, Except.ok.injEq, Prod.mk.injEq] at h
        rw [h.1]
  · rintro ⟨runs, hruns, hrender⟩
    refine ⟨(Group.ofRuns runs).length, ?_⟩
    rw [Run.loadAll_ok_iff.mpr hruns]
    simp only [hrender]

theorem page_rendered {text : String} {groups : Nat}
    (h : (page files dirs template).1 = .ok (text, groups)) :
    dirs ≠ [] ∧ Rendered files dirs template text := by
  have hdirs : dirs ≠ [] := by
    rintro rfl
    cases h
  exact ⟨hdirs, (page_ok_iff hdirs).mp ⟨groups, h⟩⟩

end Stage

end BenchReport.Report
