import BenchReport.Proofs.Experiment.Codec
import BenchReport.Proofs.File.Rewriting
import BenchReport.Proofs.Report.Stage

/-!
A report is all or nothing: one page is written above its run directories, or no file changes. As
no run is read from a page, the next report on the same directories is the same.
-/
namespace BenchReport.Report

open FileTree

theorem benchmarkFile_plain : Path.Plain benchmarkFile.toList :=
  ⟨by decide, by decide, by decide, by decide, by decide⟩

theorem readmeFile_plain : Path.Plain readmeFile.toList :=
  ⟨by decide, by decide, by decide, by decide, by decide⟩

/-- Nothing but pages was written. -/
structure PagesOnly (before after : FileTree) : Prop where
  rewrites : Rewrites before after
  node (dir : Place) {name : List Char} (h : name ≠ readmeFile.toList) :
    after.node? (dir ++ [name]) = before.node? (dir ++ [name])

variable {before after : FileTree} {dir : String} {dirs : List String} {template : String}

/-- A file of any other name is read as before, if its directory is there. -/
theorem PagesOnly.readText (pages : PagesOnly before after) {place : Place}
    (hdir : before.joinPlace dir = .ok place) (hnode : before.node? place = some .directory)
    {name : String} (plain : Path.Plain name.toList) (h : name.toList ≠ readmeFile.toList) :
    after.readText (Path.join dir name) = before.readText (Path.join dir name) := by
  have hnodeAfter := (pages.rewrites.directory_iff place).mpr hnode
  have hdirAfter := pages.rewrites.keeps.joinPlace hdir
  unfold FileTree.readText
  rw [resolve_join_directory hdir hnode plain, resolve_join_directory hdirAfter hnodeAfter plain]
  by_cases hlong : longestName < byteLength name.toList
  · simp only [hlong, if_true]
  · simp only [hlong, if_false, pages.node place h]

theorem readText_resolve {path text : String} (h : before.readText path = .ok text) :
    ∃ place, before.resolve path = .ok place := by
  unfold FileTree.readText at h
  cases hplace : before.resolve path with
  | error e => simp [hplace] at h
  | ok place => exact ⟨place, rfl⟩

/-- The directory of a loaded run is there. -/
theorem load_directory {run : Run} (h : (Run.load before dir).1 = .ok run) :
    ∃ place, before.joinPlace dir = .ok place ∧ before.node? place = some .directory := by
  unfold Run.load Experiment.load FileTree.readJson at h
  cases hread : before.readText (Path.join dir Experiment.fileName) with
  | error e => simp [hread] at h
  | ok text =>
    obtain ⟨place, hplace⟩ := readText_resolve hread
    obtain ⟨dirPlace, hdir, hnode, -⟩ := resolve_join_ok Experiment.fileName_plain hplace
    exact ⟨dirPlace, hdir, hnode⟩

theorem PagesOnly.load (pages : PagesOnly before after) {run : Run}
    (h : (Run.load before dir).1 = .ok run) : Run.load after dir = Run.load before dir := by
  obtain ⟨place, hdir, hnode⟩ := load_directory h
  have hmeasurements := pages.readText hdir hnode Experiment.fileName_plain (by decide)
  have hdescription := pages.readText hdir hnode benchmarkFile_plain (by decide)
  simp only [Run.load, Experiment.load, FileTree.readJson, readDescription, hmeasurements,
    hdescription]

theorem PagesOnly.loadAll (pages : PagesOnly before after) {runs : List Run}
    (h : dirs.map (fun dir => (Run.load before dir).1) = runs.map .ok) :
    Run.loadAll after dirs = Run.loadAll before dirs := by
  induction dirs generalizing runs with
  | nil => rfl
  | cons dir rest ih =>
    obtain ⟨run, later, rfl, hrun, hlater⟩ := List.map_eq_cons_iff.mp h.symm
    rw [Run.loadAll, Run.loadAll, pages.load hrun.symm, ih hlater.symm]

/-- A page of runs is found again where nothing but pages was written. -/
theorem PagesOnly.page (pages : PagesOnly before after) {text : String} {groups : Nat}
    (h : (page before dirs template).1 = .ok (text, groups)) :
    page after dirs template = page before dirs template := by
  obtain ⟨-, runs, hruns, -⟩ := Stage.page_rendered h
  unfold Report.page
  rw [pages.loadAll hruns]

/-- The page of a report is the only file that it writes. -/
theorem pagesOnly_writeText {text : String}
    (h : before.writeText (readmePath dirs) text = .ok after) : PagesOnly before after := by
  refine ⟨writeText_rewrites h, fun dirPlace name hname => ?_⟩
  obtain ⟨place, hplace, -, hother⟩ := writeText_written h
  obtain ⟨parent, -, -, rfl⟩ := resolve_join_ok readmeFile_plain hplace
  -- The place of the page ends in its own name, wherever the path leads.
  refine hother _ fun hsame => hname ?_
  have hlast := congrArg List.getLast? hsame
  simpa using hlast

theorem readmePath_eq (hdirs : dirs ≠ []) :
    ∃ parent, Path.commonParent? dirs = some parent ∧
      readmePath dirs = if parent = "" then readmeFile else Path.join parent readmeFile := by
  obtain ⟨first, rest, rfl⟩ := List.exists_cons_of_ne_nil hdirs
  refine ⟨_, rfl, ?_⟩
  rw [readmePath, Path.commonParent?, Option.getD_some]
  split
  case isTrue hempty => rw [hempty, Path.join_empty]
  case isFalse => rfl

section Run

variable {world : World} {given : Option String} {text : String} {groups : Nat}

/-- What comes of a report, apart from what it tells. -/
theorem run_eq (world : World) (dirs : List String) (given : Option String) :
    ∃ log, run world dirs given =
      match (page world.files dirs (given.getD standardTemplate)).1 with
      | .error e => (.error e, { world with log := log })
      | .ok (text, _) =>
        match world.files.writeText (readmePath dirs) text with
        | .error cause => (.error (.file cause), { world with log := log })
        | .ok files => (.ok (readmePath dirs), { world with log := log, files := files }) := by
  unfold run generate
  obtain ⟨result, told⟩ := page world.files dirs (given.getD standardTemplate)
  cases result with
  | error e => exact ⟨_, rfl⟩
  | ok made =>
    dsimp only
    cases world.files.writeText (readmePath dirs) made.1 <;> exact ⟨_, rfl⟩

theorem run_of_page_error {e : ReportError}
    (hpage : (page world.files dirs (given.getD standardTemplate)).1 = .error e) :
    (run world dirs given).1 = .error e ∧ (run world dirs given).2.files = world.files := by
  obtain ⟨log, hrun⟩ := run_eq world dirs given
  rw [hrun, hpage]
  exact ⟨rfl, rfl⟩

theorem run_of_write_error {cause : FileError}
    (hpage : (page world.files dirs (given.getD standardTemplate)).1 = .ok (text, groups))
    (hwrite : world.files.writeText (readmePath dirs) text = .error cause) :
    (run world dirs given).1 = .error (.file cause) ∧
      (run world dirs given).2.files = world.files := by
  obtain ⟨log, hrun⟩ := run_eq world dirs given
  simp only [hrun, hpage, hwrite, and_self]

theorem run_of_written
    (hpage : (page world.files dirs (given.getD standardTemplate)).1 = .ok (text, groups))
    (hwrite : world.files.writeText (readmePath dirs) text = .ok after) :
    (run world dirs given).1 = .ok (readmePath dirs) ∧ (run world dirs given).2.files = after := by
  obtain ⟨log, hrun⟩ := run_eq world dirs given
  simp only [hrun, hpage, hwrite, and_self]

/-- A report that fails has no page, or one that cannot be written. -/
theorem run_error {e : ReportError} (h : (run world dirs given).1 = .error e) :
    (run world dirs given).2.files = world.files ∧
      ((page world.files dirs (given.getD standardTemplate)).1 = .error e ∨
        ∃ text cause, Rendered world.files dirs (given.getD standardTemplate) text ∧
          world.files.writeText (readmePath dirs) text = .error cause ∧ e = .file cause) := by
  cases hpage : (page world.files dirs (given.getD standardTemplate)).1 with
  | error found =>
    obtain ⟨hresult, hfiles⟩ := run_of_page_error hpage
    rw [hresult, Except.error.injEq] at h
    exact ⟨hfiles, .inl (congrArg Except.error h)⟩
  | ok made =>
    cases hwrite : world.files.writeText (readmePath dirs) made.1 with
    | error cause =>
      obtain ⟨hresult, hfiles⟩ := run_of_write_error hpage hwrite
      rw [hresult, Except.error.injEq] at h
      exact ⟨hfiles, .inr ⟨made.1, cause, (Stage.page_rendered hpage).2, hwrite, h.symm⟩⟩
    | ok after =>
      rw [(run_of_written hpage hwrite).1] at h
      cases h

/-- A report that was made has written its page. -/
theorem run_ok {path : String} (h : (run world dirs given).1 = .ok path) :
    ∃ text groups, (page world.files dirs (given.getD standardTemplate)).1 = .ok (text, groups) ∧
      path = readmePath dirs ∧
      world.files.writeText (readmePath dirs) text = .ok (run world dirs given).2.files := by
  cases hpage : (page world.files dirs (given.getD standardTemplate)).1 with
  | error e =>
    rw [(run_of_page_error hpage).1] at h
    cases h
  | ok made =>
    obtain ⟨text, groups⟩ := made
    refine ⟨text, groups, rfl, ?_⟩
    cases hwrite : world.files.writeText (readmePath dirs) text with
    | error cause =>
      rw [(run_of_write_error hpage hwrite).1] at h
      cases h
    | ok after =>
      obtain ⟨hresult, hfiles⟩ := run_of_written hpage hwrite
      rw [hresult, Except.ok.injEq] at h
      exact ⟨h.symm, congrArg Except.ok hfiles.symm⟩

/-- Once a report was made, the next one finds the same page and changes nothing. -/
theorem run_again
    (hpage : (page world.files dirs (given.getD standardTemplate)).1 = .ok (text, groups))
    (hwrite : world.files.writeText (readmePath dirs) text = .ok after) {again : World}
    (hagain : again.files = after) :
    (run again dirs given).1 = .ok (readmePath dirs) ∧ (run again dirs given).2.files = after := by
  have hsame := (pagesOnly_writeText hwrite).page hpage
  rw [← hagain] at hsame
  have hrewrite : again.files.writeText (readmePath dirs) text = .ok after := by
    rw [hagain]
    exact writeText_again hwrite
  exact run_of_written (by rw [hsame, hpage]) hrewrite

end Run

/-- A report fails as its first stage that fails, or because its page cannot be written, and then
no file changes. Otherwise the page of all runs stands above their directories, no other file
changes, and the same report again changes nothing. -/
theorem run_all_or_nothing (world : World) (dirs : List String) (template : Option String) :
    let pattern := template.getD standardTemplate
    let result := (run world dirs template).1
    let after := (run world dirs template).2.files
    (∀ e, (Stage.all dirs).findSome? (Stage.error? world.files dirs pattern) = some e →
      result = .error e) ∧
    (∀ e, result = .error e → after = world.files ∧
      ((Stage.all dirs).findSome? (Stage.error? world.files dirs pattern) = some e ∨
        ∃ text cause, Rendered world.files dirs pattern text ∧
          world.files.writeText (readmePath dirs) text = .error cause ∧ e = .file cause)) ∧
    ∀ path, result = .ok path →
      (∃ parent, Path.commonParent? dirs = some parent ∧
        path = if parent = "" then readmeFile else Path.join parent readmeFile) ∧
      (∃ text, Rendered world.files dirs pattern text ∧ Written world.files after path text) ∧
      ∀ again : World, again.files = after →
        (run again dirs template).1 = .ok path ∧ (run again dirs template).2.files = after := by
  intro pattern result after
  refine ⟨fun e he => ?_, fun e he => ?_, fun path hpath => ?_⟩
  · exact (run_of_page_error (Stage.page_error_iff.mpr he)).1
  · obtain ⟨hfiles, hcause⟩ := run_error he
    exact ⟨hfiles, hcause.imp_left Stage.page_error_iff.mp⟩
  · obtain ⟨text, groups, hpage, rfl, hwrite⟩ := run_ok hpath
    obtain ⟨hdirs, hrendered⟩ := Stage.page_rendered hpage
    exact ⟨readmePath_eq hdirs, ⟨text, hrendered, writeText_written hwrite⟩,
      fun again hagain => run_again hpage hwrite hagain⟩

/-- A directory with the experiment file of a suite that measured nothing. -/
def bareWorld : World :=
  .ofFiles ⟨["bench".toList], [(["bench".toList], .directory),
    (["bench".toList, "run".toList], .directory),
    (["bench".toList, "run".toList, "measurements.json".toList],
      .file (Experiment.fileJson [⟨"suite", []⟩]).prettyText.toByteArray)]⟩ 0

def bareRun : Run := ⟨"run", unknownBenchmark, []⟩

/-- A directory with the experiment file of a suite that measured nothing, and without a
description. -/
theorem load_bare {files : FileTree} {dir : String} {place : Place}
    (hplace : files.resolve (Path.join dir Experiment.fileName) = .ok place)
    (hnode : files.node? place =
      some (.file (Experiment.fileJson [⟨"suite", []⟩]).prettyText.toByteArray))
    (hdescription : files.readText (Path.join dir benchmarkFile) = .error .notFound) :
    (Run.load files dir).1 = .ok ⟨dir, unknownBenchmark, []⟩ := by
  have hmeasurements : Experiment.load files (Path.join dir Experiment.fileName) =
      .ok [⟨"suite", []⟩] := Experiment.load_file hplace hnode
  simp only [Run.load, hmeasurements, readDescription, hdescription]

theorem load_bareWorld : (Run.load bareWorld.files "run").1 = .ok bareRun := by
  have hplace : bareWorld.files.resolve (Path.join "run" Experiment.fileName) =
      .ok ["bench".toList, "run".toList, "measurements.json".toList] := rfl
  exact load_bare hplace rfl rfl

theorem renderPage_count : renderPage (tag "run_count") 2 [] = .ok "2" := by
  have hshown : (renderPage (tag "run_count") 2 []).toOption = some "2" := by decide +kernel
  cases hrender : renderPage (tag "run_count") 2 [] with
  | error e =>
    rw [hrender] at hshown
    cases hshown
  | ok text =>
    rw [hrender] at hshown
    exact congrArg Except.ok (Option.some.inj hshown)

theorem rendered_bareWorld : Rendered bareWorld.files ["run", "run"] (tag "run_count") "2" := by
  have hgroups : Group.ofRuns [bareRun, bareRun] = [] := rfl
  refine ⟨[bareRun, bareRun], ?_, ?_⟩
  · simp only [List.map_cons, List.map_nil, load_bareWorld]
  · rw [hgroups]
    exact renderPage_count

/-- A directory that is given twice counts twice, and its page stays as it is. -/
theorem run_all_or_nothing_twice :
    ∃ world, run bareWorld ["run", "run"] (some (tag "run_count")) = (.ok "run/README.md", world) ∧
      world.files.node? ["bench".toList, "run".toList, "README.md".toList] =
        some (.file "2".toByteArray) ∧
      (run world ["run", "run"] (some (tag "run_count"))).1 = .ok "run/README.md" ∧
      (run world ["run", "run"] (some (tag "run_count"))).2.files = world.files := by
  have hdirs : ["run", "run"] ≠ [] := List.cons_ne_nil _ _
  obtain ⟨groups, hpage⟩ : ∃ groups, (page bareWorld.files ["run", "run"]
      ((some (tag "run_count")).getD standardTemplate)).1 = .ok ("2", groups) :=
    (Stage.page_ok_iff hdirs).mpr rendered_bareWorld
  obtain ⟨after, hwrite⟩ : ∃ after,
      bareWorld.files.writeText (readmePath ["run", "run"]) "2" = .ok after := ⟨_, rfl⟩
  have hmade : (run bareWorld ["run", "run"] (some (tag "run_count"))).1 = .ok "run/README.md" :=
    (run_of_written hpage hwrite).1
  obtain ⟨-, ⟨text, hrendered, place, hplace, hstands, -⟩, hagain⟩ :=
    (run_all_or_nothing bareWorld ["run", "run"] (some (tag "run_count"))).2.2 _ hmade
  have htext : text = "2" := by
    obtain ⟨others, hother⟩ := (Stage.page_ok_iff hdirs).mpr hrendered
    rw [hpage, Except.ok.injEq, Prod.mk.injEq] at hother
    exact hother.1.symm
  have hreadme : bareWorld.files.resolve "run/README.md" =
      .ok ["bench".toList, "run".toList, "README.md".toList] := rfl
  rw [hreadme, Except.ok.injEq] at hplace
  subst hplace
  generalize run bareWorld ["run", "run"] (some (tag "run_count")) = report at *
  obtain ⟨result, world⟩ := report
  cases hmade
  refine ⟨world, rfl, ?_, hagain world rfl⟩
  rcases hstands with hfile | ⟨hempty, -⟩
  · rw [htext] at hfile
    exact hfile
  · rw [htext] at hempty
    exact absurd hempty (by decide)

end BenchReport.Report
