import BenchReport.Report.Group
import Mathlib.Algebra.GroupWithZero.Nat
import Mathlib.Data.List.Induction

/-!
Groups of runs by measurement, told from the list of all records: one group for each name, in the
order in which the names first appear, with every record of the name in order.
-/
namespace BenchReport.Report.Group

/-- The records of all runs, in the order of the runs and then of their records. -/
def records (runs : List Run) : List (Run × Series) :=
  runs.flatMap fun run => run.measurements.map fun series => (run, series)

def names (records : List (Run × Series)) : List String := records.map fun record => record.2.name

/-- The group of a name: the units of its first record, and an entry for each of its records. -/
def gather (records : List (Run × Series)) (name : String) : Group where
  name := name
  units := ((records.find? fun record => record.2.name = name).map fun record =>
    record.2.units).getD ""
  runs := (records.filter fun record => record.2.name = name).map fun record =>
    entry record.1 record.2

/-- Adds the entry of a record to the group of its name. -/
def addRecord (groups : List Group) (record : Run × Series) : List Group :=
  add record.2.name record.2.units (entry record.1 record.2) groups

theorem ofRuns_eq (runs : List Run) : ofRuns runs = (records runs).foldl addRecord [] := by
  simp only [ofRuns, records, List.foldl_flatMap, List.foldl_map]
  rfl

/-! ## Adding an entry -/

section

variable {name units : String} {new : RunSeries} {groups : List Group}

theorem add_new (h : name ∉ groups.map Group.name) :
    add name units new groups = groups ++ [⟨name, units, [new]⟩] := by
  induction groups with
  | nil => rfl
  | cons first rest ih =>
    simp only [List.map_cons, List.mem_cons, not_or] at h
    rw [add, if_neg (Ne.symm h.1), ih h.2, List.cons_append]

theorem add_known (hnodup : (groups.map Group.name).Nodup) (h : name ∈ groups.map Group.name) :
    add name units new groups = groups.map fun group =>
      if group.name = name then { group with runs := group.runs ++ [new] } else group := by
  induction groups with
  | nil => simp at h
  | cons first rest ih =>
    simp only [List.map_cons, List.nodup_cons] at hnodup
    by_cases hfirst : first.name = name
    · have hrest : ∀ group ∈ rest, group.name ≠ name := by
        intro group hgroup hsame
        apply hnodup.1
        rw [hfirst, ← hsame]
        exact List.mem_map_of_mem hgroup
      have hkept : rest.map (fun group =>
          if group.name = name then { group with runs := group.runs ++ [new] } else group) =
            rest := by
        refine (List.map_congr_left fun group hgroup => ?_).trans (List.map_id' rest)
        exact if_neg (hrest group hgroup)
      rw [add, if_pos hfirst, List.map_cons, if_pos hfirst, hkept]
    · have hlater : name ∈ rest.map Group.name := by
        simpa [Ne.symm hfirst] using h
      rw [add, if_neg hfirst, ih hnodup.2 hlater, List.map_cons, if_neg hfirst]

/-- Every entry is counted in one group. -/
theorem sum_length_add :
    ((add name units new groups).map fun group => group.runs.length).sum =
      (groups.map fun group => group.runs.length).sum + 1 := by
  induction groups with
  | nil => simp [add]
  | cons first rest ih =>
    rw [add]
    split
    · simp
      omega
    · simp [ih]
      omega

end

/-! ## The groups of a list of records -/

section

variable {past : List (Run × Series)} {record : Run × Series} {name : String}

theorem eraseDups_concat (names : List String) (name : String) :
    (names ++ [name]).eraseDups =
      if name ∈ names then names.eraseDups else names.eraseDups ++ [name] := by
  rw [List.eraseDups_append]
  by_cases h : name ∈ names
  · simp [h, List.removeAll]
  · simp [h, List.removeAll, List.eraseDups_cons]

theorem nodup_eraseDups (names : List String) : names.eraseDups.Nodup := by
  induction names using List.reverseRecOn with
  | nil => simp
  | append_singleton names name ih =>
    rw [eraseDups_concat]
    split
    · exact ih
    · rename_i hnew
      rw [List.nodup_append]
      refine ⟨ih, by simp, fun other hother last hlast hsame => hnew ?_⟩
      rw [← List.mem_singleton.mp hlast, ← hsame]
      exact List.mem_eraseDups.mp hother

theorem gather_concat_of_ne (h : record.2.name ≠ name) :
    gather (past ++ [record]) name = gather past name := by
  simp [gather, h]

theorem gather_concat_known (h : record.2.name ∈ names past) :
    gather (past ++ [record]) record.2.name =
      { gather past record.2.name with
        runs := (gather past record.2.name).runs ++ [entry record.1 record.2] } := by
  obtain ⟨first, hfirst, hname⟩ := List.mem_map.mp h
  have hfound : (past.find? fun other => other.2.name = record.2.name).isSome := by
    rw [List.find?_isSome]
    exact ⟨first, hfirst, by simpa using hname⟩
  obtain ⟨found, hsome⟩ := Option.isSome_iff_exists.mp hfound
  simp [gather, hsome]

theorem gather_concat_new (h : record.2.name ∉ names past) :
    gather (past ++ [record]) record.2.name =
      ⟨record.2.name, record.2.units, [entry record.1 record.2]⟩ := by
  have hnone : ∀ other ∈ past, other.2.name ≠ record.2.name := by
    intro other hother hsame
    exact h (hsame ▸ List.mem_map_of_mem hother)
  have hfind : past.find? (fun other => other.2.name = record.2.name) = none := by
    simpa using fun run series hmem => hnone (run, series) hmem
  have hfilter : past.filter (fun other => other.2.name = record.2.name) = [] := by
    simpa using fun run series hmem => hnone (run, series) hmem
  simp [gather, hfind, hfilter]

end

theorem names_gather (records : List (Run × Series)) (names : List String) :
    (names.map (gather records)).map Group.name = names := by
  rw [List.map_map]
  exact List.map_id' names

/-- The groups of records are gathered from all of them, name by name. -/
theorem foldl_addRecord (records : List (Run × Series)) :
    records.foldl addRecord [] = (names records).eraseDups.map (gather records) := by
  induction records using List.reverseRecOn with
  | nil => rfl
  | append_singleton past record ih =>
    have hnames : names (past ++ [record]) = names past ++ [record.2.name] := by
      simp [names]
    rw [List.foldl_append, List.foldl_cons, List.foldl_nil, ih, addRecord, hnames,
      eraseDups_concat]
    by_cases hknown : record.2.name ∈ names past
    · have hmem : record.2.name ∈ (((names past).eraseDups).map (gather past)).map Group.name := by
        rw [names_gather]
        exact List.mem_eraseDups.mpr hknown
      have hnodup : ((((names past).eraseDups).map (gather past)).map Group.name).Nodup := by
        rw [names_gather]
        exact nodup_eraseDups _
      rw [if_pos hknown, add_known hnodup hmem, List.map_map]
      refine List.map_congr_left fun name _ => ?_
      by_cases hname : record.2.name = name
      · subst hname
        rw [gather_concat_known hknown]
        exact if_pos rfl
      · rw [gather_concat_of_ne hname]
        exact if_neg fun h => hname h.symm
    · have hnew : record.2.name ∉ (((names past).eraseDups).map (gather past)).map Group.name := by
        rw [names_gather, List.mem_eraseDups]
        exact hknown
      rw [if_neg hknown, add_new hnew, List.map_append, List.map_singleton,
        gather_concat_new hknown]
      congr 1
      refine List.map_congr_left fun name hname => ?_
      rw [gather_concat_of_ne]
      rintro rfl
      exact hknown (List.mem_eraseDups.mp hname)

theorem ofRuns_eq_gather (runs : List Run) :
    ofRuns runs = (names (records runs)).eraseDups.map (gather (records runs)) :=
  (ofRuns_eq runs).trans (foldl_addRecord (records runs))

theorem sum_length_foldl (records : List (Run × Series)) (groups : List Group) :
    ((records.foldl addRecord groups).map fun group => group.runs.length).sum =
      (groups.map fun group => group.runs.length).sum + records.length := by
  induction records generalizing groups with
  | nil => simp
  | cons record rest ih =>
    rw [List.foldl_cons, ih, addRecord, sum_length_add, List.length_cons]
    omega

/-- There is one group for each name, in the order in which the names first appear over all runs.
A group has the units of the first record of its name, and an entry for every record of it, run by
run and in the order within each run. No record is lost or counted twice. -/
theorem ofRuns_grouping (runs : List Run) :
    let groups := ofRuns runs
    (groups.map Group.name).Nodup ∧
    groups.map Group.name = (names (records runs)).eraseDups ∧
    (∀ group ∈ groups,
      (∃ first, (records runs).find? (fun record => record.2.name = group.name) = some first ∧
        group.units = first.2.units) ∧
      group.runs = ((records runs).filter fun record => record.2.name = group.name).map
        fun record => ⟨record.1.description, record.2.results,
          Stats.ofValues record.2.results⟩) ∧
    (groups.map fun group => group.runs.length).sum =
      (runs.map fun run => run.measurements.length).sum := by
  intro groups
  have hgroups : groups = (names (records runs)).eraseDups.map (gather (records runs)) :=
    ofRuns_eq_gather runs
  have hnames : groups.map Group.name = (names (records runs)).eraseDups := by
    rw [hgroups, names_gather]
  refine ⟨hnames ▸ nodup_eraseDups _, hnames, ?_, ?_⟩
  · intro group hgroup
    rw [hgroups] at hgroup
    obtain ⟨name, hname, rfl⟩ := List.mem_map.mp hgroup
    obtain ⟨record, hrecord, hsame⟩ := List.mem_map.mp (List.mem_eraseDups.mp hname)
    have hfound : ((records runs).find? fun record => record.2.name = name).isSome := by
      rw [List.find?_isSome]
      exact ⟨record, hrecord, by simpa using hsame⟩
    obtain ⟨first, hfirst⟩ := Option.isSome_iff_exists.mp hfound
    refine ⟨⟨first, hfirst, ?_⟩, rfl⟩
    simp [gather, hfirst]
  · have htotal := sum_length_foldl (records runs) []
    rw [← ofRuns_eq] at htotal
    simpa [records, groups] using htotal

/-- Two runs of one description; the first records one name twice. -/
def twinRuns : List Run :=
  [⟨"out/a", "tsdb", [⟨"cpu", "millicores", [], [.zero]⟩, ⟨"heap", "gigabytes", [], []⟩,
      ⟨"cpu", "cores", [], [.nan]⟩]⟩,
    ⟨"out/b", "tsdb", [⟨"cpu", "seconds", [], [.infinite true]⟩]⟩]

theorem ofRuns_grouping_twins :
    (ofRuns twinRuns).map Group.name = ["cpu", "heap"] ∧
      ∃ group ∈ ofRuns twinRuns, group.name = "cpu" ∧ group.units = "millicores" ∧
        group.runs.map (fun run => (run.description, run.values)) =
          [("tsdb", [.zero]), ("tsdb", [.nan]), ("tsdb", [.infinite true])] := by
  obtain ⟨-, hnames, hgroups, -⟩ := ofRuns_grouping twinRuns
  have hfirst : (names (records twinRuns)).eraseDups = ["cpu", "heap"] := by decide
  rw [hfirst] at hnames
  refine ⟨hnames, ?_⟩
  have hcpu : "cpu" ∈ (ofRuns twinRuns).map Group.name := by
    rw [hnames]
    exact List.mem_cons_self
  obtain ⟨group, hgroup, hname⟩ := List.mem_map.mp hcpu
  obtain ⟨⟨first, hfind, hunits⟩, hruns⟩ := hgroups group hgroup
  rw [hname] at hfind hruns
  cases hfind
  exact ⟨group, hgroup, hname, hunits, by rw [hruns]; rfl⟩

end BenchReport.Report.Group
