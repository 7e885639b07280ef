import BenchReport.Proofs.File.Tree

/-!
Trees that differ in regular files only. The same paths lead to the same places in both, and the
same files can be opened for writing.
-/
namespace BenchReport.FileTree

/-- Nothing but regular files was made or written anew. -/
structure Rewrites (before after : FileTree) : Prop where
  workingDirectory : after.workingDirectory = before.workingDirectory
  node (place : Place) :
    after.node? place = before.node? place ∨
      before.node? place ≠ some .directory ∧ before.node? place ≠ some .full ∧
        ∃ content, after.node? place = some (.file content)

variable {before middle after tree : FileTree} {path : String} {place : Place}

namespace Rewrites

theorem refl (tree : FileTree) : Rewrites tree tree := ⟨rfl, fun _ => .inl rfl⟩

theorem trans (first : Rewrites before middle) (second : Rewrites middle after) :
    Rewrites before after := by
  refine ⟨second.workingDirectory.trans first.workingDirectory, fun place => ?_⟩
  rcases second.node place with hsame | ⟨hdirectory, hfull, hcontent⟩
  · rw [hsame]
    exact first.node place
  · right
    rcases first.node place with hsame | ⟨hdirectory', hfull', -⟩
    · rw [hsame] at hdirectory hfull
      exact ⟨hdirectory, hfull, hcontent⟩
    · exact ⟨hdirectory', hfull', hcontent⟩

theorem directory_iff (h : Rewrites before after) (place : Place) :
    after.node? place = some .directory ↔ before.node? place = some .directory := by
  rcases h.node place with hsame | ⟨hdirectory, -, content, hcontent⟩
  · rw [hsame]
  · simp [hdirectory, hcontent]

theorem full_iff (h : Rewrites before after) (place : Place) :
    after.node? place = some .full ↔ before.node? place = some .full := by
  rcases h.node place with hsame | ⟨-, hfull, content, hcontent⟩
  · rw [hsame]
  · simp [hfull, hcontent]

theorem keeps (h : Rewrites before after) : Keeps before after :=
  ⟨h.workingDirectory, fun place => (h.directory_iff place).mpr⟩

theorem keeps_back (h : Rewrites before after) : Keeps after before :=
  ⟨h.workingDirectory.symm, fun place => (h.directory_iff place).mp⟩

theorem resolve_iff (h : Rewrites before after) :
    after.resolve path = .ok place ↔ before.resolve path = .ok place :=
  ⟨h.keeps_back.resolve, h.keeps.resolve⟩

end Rewrites

theorem Rewrites.regular_iff (h : Rewrites before after) :
    after.openForWriting path = .ok (.regular place) ↔
      before.openForWriting path = .ok (.regular place) := by
  rw [openForWriting_regular_iff, openForWriting_regular_iff, h.resolve_iff, ne_eq, ne_eq, ne_eq,
    ne_eq, h.directory_iff, h.full_iff]

theorem openForWriting_place_ne_nil (h : tree.openForWriting path = .ok (.regular place)) :
    place ≠ [] :=
  place_ne_nil (openForWriting_regular_iff.mp h).2.1

/-- A file that was opened may be written. -/
theorem rewrites_put (h : tree.openForWriting path = .ok (.regular place)) (content : ByteArray) :
    Rewrites tree (tree.put place (.file content)) := by
  obtain ⟨-, hdirectory, hfull⟩ := openForWriting_regular_iff.mp h
  refine ⟨rfl, fun other => ?_⟩
  by_cases hsame : other = place
  · subst hsame
    exact .inr ⟨hdirectory, hfull, content, node?_put_self tree (place_ne_nil hdirectory) _⟩
  · exact .inl (node?_put_of_ne tree hsame _)

theorem put_put (tree : FileTree) (place : Place) (first second : FileNode) :
    (tree.put place first).put place second = tree.put place second := by
  simp [put, List.filter_filter]

theorem full_resolve (h : tree.openForWriting path = .ok .full) :
    ∃ place, tree.resolve path = .ok place ∧ tree.node? place = some .full := by
  unfold openForWriting at h
  cases hresolve : tree.resolve path with
  | error e => simp [hresolve] at h
  | ok place =>
    refine ⟨place, rfl, ?_⟩
    simp only [hresolve] at h
    split at h
    case h_1 => cases h
    case h_2 hnode => exact hnode
    case h_3 => cases h

/-- A text stands where a path leads, or is empty there in a full file, and all else is as it
was. -/
def Written (before after : FileTree) (path text : String) : Prop :=
  ∃ place, before.resolve path = .ok place ∧
    (after.node? place = some (.file text.toByteArray) ∨
      text = "" ∧ before.node? place = some .full ∧ after.node? place = some .full) ∧
    ∀ other, other ≠ place → after.node? other = before.node? other

theorem writeText_written {text : String} (h : tree.writeText path text = .ok after) :
    Written tree after path text := by
  rcases writeText_cases h with ⟨place, hopen, rfl⟩ | ⟨hopen, hempty, rfl⟩
  · have hplace := (openForWriting_regular_iff.mp hopen).1
    have hself := node?_put_self tree (openForWriting_place_ne_nil hopen)
      (.file text.toByteArray)
    exact ⟨place, hplace, .inl hself, fun other hother => node?_put_of_ne tree hother _⟩
  · obtain ⟨place, hplace, hnode⟩ := full_resolve hopen
    exact ⟨place, hplace, .inr ⟨hempty, hnode, hnode⟩, fun _ _ => rfl⟩

theorem writeText_rewrites {text : String} (h : tree.writeText path text = .ok after) :
    Rewrites tree after := by
  rcases writeText_cases h with ⟨place, hopen, rfl⟩ | ⟨-, -, rfl⟩
  · exact rewrites_put hopen _
  · exact .refl _

/-- To write a text a second time changes nothing. -/
theorem writeText_again {text : String} (h : tree.writeText path text = .ok after) :
    after.writeText path text = .ok after := by
  rcases writeText_cases h with ⟨place, hopen, rfl⟩ | ⟨-, -, rfl⟩
  · have hagain := (rewrites_put hopen text.toByteArray).regular_iff.mpr hopen
    rw [writeText, write, hagain]
    exact congrArg Except.ok (put_put tree place _ _)
  · exact h

end BenchReport.FileTree
