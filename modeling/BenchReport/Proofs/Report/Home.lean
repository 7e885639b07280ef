import BenchReport.Proofs.File.Destination
import BenchReport.Proofs.Report.Generate

/-!
Where the page of a report lands. Its directory is told from the written components of the run
directories alone, so it holds a run exactly if the rest of the run's path comes back to it.
-/
namespace BenchReport.Report

open BenchReport.Path FileTree

variable {dirs : List String} {parent : String}

/-- What a path adds to the components of a common parent. -/
def beyond (parent dir : String) : List Component :=
  (components dir).drop (components parent).length

theorem components_eq_append_beyond (h : commonParent? dirs = some parent) {dir : String}
    (hdir : dir ∈ dirs) : components dir = components parent ++ beyond parent dir := by
  obtain ⟨rest, hrest⟩ := (prefix_commonParent_iff h).mp List.prefix_rfl dir hdir
  rw [beyond, ← hrest, List.drop_left]

theorem destination_eq_reach (h : commonParent? dirs = some parent) {dir : String}
    (hdir : dir ∈ dirs) (start : Place) :
    destination start dir =
      (Detour.ofParts (destination start parent).length (beyond parent dir)).reach
        (destination start parent) := by
  rw [Detour.reach_ofParts, destination, components_eq_append_beyond h hdir, List.foldl_append,
    destination]

/-- If all paths begin at the root or none does, what a path adds has no root in it. -/
theorem root_notMem_beyond (h : commonParent? dirs = some parent)
    (hkind : (∀ dir ∈ dirs, Absolute dir) ∨ ∀ dir ∈ dirs, ¬Absolute dir) {dir : String}
    (hdir : dir ∈ dirs) : .root ∉ beyond parent dir := by
  have htail := root_notMem_tail dir
  intro hroot
  rcases hkind with hall | hnone
  · have hparent : [.root] <+: components parent :=
      (prefix_commonParent_iff h).mpr fun path hpath => absolute_iff.mp (hall path hpath)
    obtain ⟨rest, hrest⟩ := hparent
    rw [components_eq_append_beyond h hdir, ← hrest] at htail
    exact htail (List.mem_append_right _ hroot)
  · have hdirRoot : .root ∈ components dir := List.mem_of_mem_drop hroot
    cases hparts : components dir with
    | nil => simp [hparts] at hdirRoot
    | cons first rest =>
      rw [hparts] at hdirRoot htail
      rcases List.mem_cons.mp hdirRoot with rfl | hrest
      · exact hnone dir hdir (absolute_iff.mpr ⟨rest, hparts.symm⟩)
      · exact htail hrest

theorem destination_below_iff (h : commonParent? dirs = some parent) {dir : String}
    (hdir : dir ∈ dirs) (start : Place) :
    destination start parent <+: destination start dir ↔
      (Detour.ofParts (destination start parent).length (beyond parent dir)).Returns
        (destination start parent) := by
  rw [destination_eq_reach h hdir start, Detour.prefix_reach_iff]

/-- Paths without a step up lie below their parent, if all begin at the root or none does. -/
theorem destination_below_of_down (h : commonParent? dirs = some parent)
    (hup : ∀ dir ∈ dirs, .up ∉ components dir)
    (hkind : (∀ dir ∈ dirs, Absolute dir) ∨ ∀ dir ∈ dirs, ¬Absolute dir) {dir : String}
    (hdir : dir ∈ dirs) (start : Place) :
    destination start parent <+: destination start dir := by
  rw [destination_below_iff h hdir start]
  refine Detour.returns_of_down (root_notMem_beyond h hkind hdir) (fun hmem => ?_) _
  exact hup dir hdir (List.mem_of_mem_drop hmem)

/-- The page of a report that was made stands in the directory to which the common components of
the run directories lead. A run directory lies below that directory exactly if the rest of its path
goes down again every name that it climbs out of. If no path has a step up, and all begin at the
root or none does, all of them lie below it. -/
theorem run_home (world : World) (dirs : List String) (template : Option String) (path : String)
    (hmade : (run world dirs template).1 = .ok path) :
    ∃ parent, commonParent? dirs = some parent ∧
      let start := world.files.workingDirectory
      let home := destination start parent
      world.files.resolve path = .ok (home ++ [readmeFile.toList]) ∧
      (∀ dir ∈ dirs, world.files.joinPlace dir = .ok (destination start dir) ∧
        (home <+: destination start dir ↔
          (Detour.ofParts home.length (beyond parent dir)).Returns home)) ∧
      ((∀ dir ∈ dirs, .up ∉ components dir) →
        ((∀ dir ∈ dirs, Absolute dir) ∨ ∀ dir ∈ dirs, ¬Absolute dir) →
        ∀ dir ∈ dirs, home <+: destination start dir) := by
  obtain ⟨text, groups, hpage, rfl, hwrite⟩ := run_ok hmade
  obtain ⟨hdirs, runs, hruns, -⟩ := Stage.page_rendered hpage
  obtain ⟨parent, hparent⟩ := commonParent?_of_ne_nil hdirs
  refine ⟨parent, hparent, ?_, fun dir hdir => ⟨?_, destination_below_iff hparent hdir _⟩,
    fun hup hkind dir hdir => destination_below_of_down hparent hup hkind hdir _⟩
  · obtain ⟨place, hplace, -⟩ := writeText_written hwrite
    have hjoined : world.files.resolve (Path.join parent readmeFile) = .ok place := by
      rwa [readmePath, hparent] at hplace
    obtain ⟨home, hhome, -, rfl⟩ := resolve_join_ok readmeFile_plain hjoined
    rw [hplace, joinPlace_eq_destination hhome]
  · obtain ⟨run, -, hload⟩ := List.mem_map.mp (hruns ▸ List.mem_map_of_mem hdir)
    obtain ⟨place, hplace, -⟩ := load_directory hload.symm
    rw [hplace, joinPlace_eq_destination hplace]

/-- Two run directories beside each other. -/
def siblings : World :=
  let directories := [["bench"], ["bench", "runs"], ["bench", "runs", "a"], ["bench", "runs", "b"]]
  let files := [["bench", "runs", "a", "measurements.json"],
    ["bench", "runs", "b", "measurements.json"]]
  let content := (Experiment.fileJson [⟨"suite", []⟩]).prettyText.toByteArray
  .ofFiles ⟨["bench".toList],
    directories.map (fun place => (place.map String.toList, .directory)) ++
      files.map fun place => (place.map String.toList, .file content)⟩ 0

theorem run_siblings {other : String} {after : FileTree}
    (hother : (Run.load siblings.files other).1 = .ok ⟨other, unknownBenchmark, []⟩)
    (hwrite : siblings.files.writeText (readmePath ["runs/a", other]) "2" = .ok after) :
    (run siblings ["runs/a", other] (some (tag "run_count"))).1 =
      .ok (readmePath ["runs/a", other]) := by
  have hdirs : ["runs/a", other] ≠ [] := List.cons_ne_nil _ _
  have hfirst : (Run.load siblings.files "runs/a").1 = .ok ⟨"runs/a", unknownBenchmark, []⟩ := by
    have hplace : siblings.files.resolve (Path.join "runs/a" Experiment.fileName) =
        .ok ["bench".toList, "runs".toList, "a".toList, "measurements.json".toList] := rfl
    exact load_bare hplace rfl rfl
  have hrendered : Rendered siblings.files ["runs/a", other] (tag "run_count") "2" := by
    have hgroups : Group.ofRuns
        [⟨"runs/a", unknownBenchmark, []⟩, ⟨other, unknownBenchmark, []⟩] = [] := rfl
    refine ⟨[⟨"runs/a", unknownBenchmark, []⟩, ⟨other, unknownBenchmark, []⟩], ?_, ?_⟩
    · simp only [List.map_cons, List.map_nil, hfirst, hother]
    · rw [hgroups]
      exact renderPage_count
  obtain ⟨groups, hpage⟩ : ∃ groups, (page siblings.files ["runs/a", other]
      ((some (tag "run_count")).getD standardTemplate)).1 = .ok ("2", groups) :=
    (Stage.page_ok_iff hdirs).mpr hrendered
  exact (run_of_written hpage hwrite).1

/-- A path that leaves the directory of the page and comes back to it. -/
theorem run_home_returning :
    (run siblings ["runs/a", "runs/a/../a"] (some (tag "run_count"))).1 = .ok "runs/a/README.md" ∧
      destination ["bench".toList] "runs/a" <+:
        destination ["bench".toList] "runs/a/../a" := by
  have hplace : siblings.files.resolve (Path.join "runs/a/../a" Experiment.fileName) =
      .ok ["bench".toList, "runs".toList, "a".toList, "measurements.json".toList] := rfl
  have hload : (Run.load siblings.files "runs/a/../a").1 =
      .ok ⟨"runs/a/../a", unknownBenchmark, []⟩ := load_bare hplace rfl rfl
  obtain ⟨after, hwrite⟩ : ∃ after, siblings.files.writeText
      (readmePath ["runs/a", "runs/a/../a"]) "2" = .ok after := ⟨_, rfl⟩
  have hmade := run_siblings hload hwrite
  have hpath : readmePath ["runs/a", "runs/a/../a"] = "runs/a/README.md" := by decide +kernel
  rw [hpath] at hmade
  obtain ⟨parent, hparent, -, hbelow, -⟩ := run_home siblings _ _ _ hmade
  have hcommon : commonParent? ["runs/a", "runs/a/../a"] = some "runs/a" := by decide +kernel
  obtain rfl : "runs/a" = parent := Option.some.inj (hcommon.symm.trans hparent)
  have hreturns : (Detour.ofParts (destination ["bench".toList] "runs/a").length
      (beyond "runs/a" "runs/a/../a")).Returns (destination ["bench".toList] "runs/a") := by
    unfold Detour.Returns
    decide +kernel
  have hother : "runs/a/../a" ∈ ["runs/a", "runs/a/../a"] :=
    List.mem_cons_of_mem _ List.mem_cons_self
  exact ⟨hmade, (hbelow _ hother).2.mpr hreturns⟩

/-- The page of two runs can land inside one of them. -/
theorem run_home_inside :
    ¬∀ (world : World) (dirs : List String) (template : Option String) (path : String),
      dirs ≠ [] → (run world dirs template).1 = .ok path →
      ∃ home, world.files.resolve path = .ok (home ++ [readmeFile.toList]) ∧
        ∀ dir ∈ dirs, home <+: destination world.files.workingDirectory dir := by
  intro h
  have hplace : siblings.files.resolve (Path.join "runs/a/../b" Experiment.fileName) =
      .ok ["bench".toList, "runs".toList, "b".toList, "measurements.json".toList] := rfl
  have hload : (Run.load siblings.files "runs/a/../b").1 =
      .ok ⟨"runs/a/../b", unknownBenchmark, []⟩ := load_bare hplace rfl rfl
  obtain ⟨after, hwrite⟩ : ∃ after, siblings.files.writeText
      (readmePath ["runs/a", "runs/a/../b"]) "2" = .ok after := ⟨_, rfl⟩
  have hmade := run_siblings hload hwrite
  obtain ⟨home, hhome, hbelow⟩ := h siblings _ _ _ (List.cons_ne_nil _ _) hmade
  have hreadme : siblings.files.resolve (readmePath ["runs/a", "runs/a/../b"]) =
      .ok (["bench".toList, "runs".toList, "a".toList] ++ [readmeFile.toList]) := rfl
  rw [hreadme, Except.ok.injEq] at hhome
  have hhere : ["bench".toList, "runs".toList, "a".toList] = home :=
    List.append_cancel_right hhome
  have hother := hbelow "runs/a/../b" (List.mem_cons_of_mem _ List.mem_cons_self)
  have hbeside : ¬["bench".toList, "runs".toList, "a".toList] <+:
      destination siblings.files.workingDirectory "runs/a/../b" := by decide +kernel
  exact hbeside (hhere ▸ hother)

end BenchReport.Report
