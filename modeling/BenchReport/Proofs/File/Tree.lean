import BenchReport.File.Tree
import BenchReport.Proofs.File.Path

/-!
What changes to a tree leave as it was. A tree keeps the directories of another when only files are
written and missing directories made, so every path that led somewhere still leads there.
-/
namespace BenchReport.FileTree

/-- Every directory of one tree is a directory of the other, seen from the same place. -/
structure Keeps (before after : FileTree) : Prop where
  workingDirectory : after.workingDirectory = before.workingDirectory
  directory (place : Place) :
    before.node? place = some .directory → after.node? place = some .directory

/-- A node put where no directory stands takes no directory away. -/
theorem keeps_put {tree : FileTree} {place : Place} (h : tree.node? place ≠ some .directory)
    (node : FileNode) : Keeps tree (tree.put place node) := by
  refine ⟨rfl, fun other hother => ?_⟩
  have hne : other ≠ place := by
    rintro rfl
    exact h hother
  rw [node?_put_of_ne tree hne, hother]

theorem place_ne_nil {tree : FileTree} {place : Place}
    (h : tree.node? place ≠ some .directory) : place ≠ [] := by
  rintro rfl
  exact h rfl

/-- A node put into a directory stands under its name, and beside it all is as it was. -/
theorem node?_put_inside (tree : FileTree) (place : Place) (name file : List Char)
    (node : FileNode) :
    (tree.put (place ++ [name]) node).node? (place ++ [file]) =
      if file = name then some node else tree.node? (place ++ [file]) := by
  by_cases hsame : file = name
  · have hnil : place ++ [name] ≠ [] := by simp
    rw [if_pos hsame, hsame, node?_put_self tree hnil]
  · have hplace : place ++ [file] ≠ place ++ [name] := by simpa using hsame
    rw [if_neg hsame, node?_put_of_ne tree hplace]

/-- From where a directory stands, every segment is looked at in the same way. -/
theorem step_congr {before after : FileTree} {place : Place}
    (hbefore : before.node? place = some .directory)
    (hafter : after.node? place = some .directory) (segment : List Char) :
    after.step place segment = before.step place segment := by
  rw [step, step, hbefore, hafter]

theorem step_directory {tree : FileTree} {place next : Place} {segment : List Char}
    (h : tree.step place segment = .ok next) : tree.node? place = some .directory := by
  rw [step] at h
  split at h
  case h_1 => cases h
  case h_2 heq => exact heq
  case h_3 => cases h

theorem Keeps.step {before after : FileTree} (keeps : Keeps before after) {place next : Place}
    {segment : List Char} (h : before.step place segment = .ok next) :
    after.step place segment = .ok next := by
  have hplace := step_directory h
  rw [step_congr hplace (keeps.directory place hplace), h]

theorem walk_cons {tree : FileTree} {place next : Place} {segment : List Char}
    (h : tree.step place segment = .ok next) (rest : List (List Char)) :
    tree.walk place (segment :: rest) = tree.walk next rest := by
  rw [walk, h]

theorem walk_cons_ok {tree : FileTree} {place last : Place} {segment : List Char}
    {rest : List (List Char)} (h : tree.walk place (segment :: rest) = .ok last) :
    ∃ next, tree.step place segment = .ok next ∧ tree.walk next rest = .ok last := by
  rw [walk] at h
  split at h
  case h_1 => cases h
  case h_2 next hnext => exact ⟨next, hnext, h⟩

theorem walk_append {tree : FileTree} {place next : Place} {segments : List (List Char)}
    (h : tree.walk place segments = .ok next) (rest : List (List Char)) :
    tree.walk place (segments ++ rest) = tree.walk next rest := by
  induction segments generalizing place with
  | nil =>
    cases h
    rfl
  | cons segment segments ih =>
    obtain ⟨first, hstep, hwalk⟩ := walk_cons_ok h
    rw [List.cons_append, walk_cons hstep, ih hwalk]

theorem walk_append_ok {tree : FileTree} {place last : Place} {segments rest : List (List Char)}
    (h : tree.walk place (segments ++ rest) = .ok last) :
    ∃ next, tree.walk place segments = .ok next ∧ tree.walk next rest = .ok last := by
  induction segments generalizing place with
  | nil => exact ⟨place, rfl, h⟩
  | cons segment segments ih =>
    obtain ⟨first, hstep, hwalk⟩ := walk_cons_ok h
    obtain ⟨next, hnext, hrest⟩ := ih hwalk
    exact ⟨next, by rw [walk_cons hstep, hnext], hrest⟩

theorem Keeps.walk {before after : FileTree} (keeps : Keeps before after) {place last : Place}
    {segments : List (List Char)} (h : before.walk place segments = .ok last) :
    after.walk place segments = .ok last := by
  induction segments generalizing place with
  | nil => exact h
  | cons segment rest ih =>
    obtain ⟨next, hstep, hwalk⟩ := walk_cons_ok h
    rw [walk_cons (keeps.step hstep), ih hwalk]

theorem Keeps.origin {before after : FileTree} (keeps : Keeps before after) (path : List Char) :
    after.origin path = before.origin path := by
  rw [FileTree.origin, FileTree.origin, keeps.workingDirectory]

theorem resolve_ok {tree : FileTree} {path : String} {place : Place}
    (h : tree.resolve path = .ok place) :
    path.toList ≠ [] ∧ '\x00' ∉ path.toList ∧
      tree.walk (tree.origin path.toList) (Path.segments path.toList) = .ok place := by
  unfold resolve at h
  by_cases hempty : path.toList = []
  · simp [hempty] at h
  · by_cases hzero : '\x00' ∈ path.toList
    · simp [hempty, hzero] at h
    · simp only [hempty, hzero, if_false] at h
      exact ⟨hempty, hzero, h⟩

theorem resolve_of_walk {tree : FileTree} {path : String} (hempty : path.toList ≠ [])
    (hzero : '\x00' ∉ path.toList) :
    tree.resolve path = tree.walk (tree.origin path.toList) (Path.segments path.toList) := by
  simp only [resolve, hempty, hzero, if_false]

/-- A path that leads somewhere leads there in every tree that keeps the directories. -/
theorem Keeps.resolve {before after : FileTree} (keeps : Keeps before after) {path : String}
    {place : Place} (h : before.resolve path = .ok place) : after.resolve path = .ok place := by
  obtain ⟨hempty, hzero, hwalk⟩ := resolve_ok h
  rw [resolve_of_walk hempty hzero, keeps.origin]
  exact keeps.walk hwalk

/-- The place to whose inside names are joined; the empty directory is the working directory. -/
def joinPlace (tree : FileTree) (dir : String) : Except FileError Place :=
  if dir.toList = [] then .ok tree.workingDirectory else tree.resolve dir

theorem Keeps.joinPlace {before after : FileTree} (keeps : Keeps before after) {dir : String}
    {place : Place} (h : before.joinPlace dir = .ok place) : after.joinPlace dir = .ok place := by
  unfold FileTree.joinPlace at h ⊢
  split at h
  case isTrue hempty => rw [if_pos hempty, keeps.workingDirectory, h]
  case isFalse hempty => rw [if_neg hempty, keeps.resolve h]

theorem step_plain {tree : FileTree} {place : Place} (h : tree.node? place = some .directory)
    {name : List Char} (plain : Path.Plain name) :
    tree.step place name =
      if longestName < byteLength name then .error .longName else .ok (place ++ [name]) := by
  rw [step, h]
  simp only [plain.nonempty, plain.notHere, plain.notUp, or_self, if_false]

theorem walk_singleton (tree : FileTree) (place : Place) (segment : List Char) :
    tree.walk place [segment] = tree.step place segment := by
  rw [walk]
  cases tree.step place segment with
  | error e => rfl
  | ok next => rfl

theorem origin_append {tree : FileTree} {before : List Char} (h : before ≠ [])
    (after : List Char) : tree.origin (before ++ after) = tree.origin before := by
  obtain ⟨c, rest, rfl⟩ := List.exists_cons_of_ne_nil h
  rfl

theorem origin_slash (tree : FileTree) (stem after : List Char) :
    tree.origin (stem ++ '/' :: after) = tree.origin (stem ++ ['/']) := by
  cases stem with
  | nil => rfl
  | cons c rest => rfl

theorem walk_blank {tree : FileTree} {place last : Place}
    (h : tree.walk place [[]] = .ok last) : last = place := by
  rw [walk_singleton, step] at h
  split at h
  case h_1 => cases h
  case h_2 =>
    rw [if_pos (.inl rfl)] at h
    cases h
    rfl
  case h_3 => cases h

/-- A plain name is looked up in the working directory. -/
theorem resolve_plain (tree : FileTree) {name : String} (plain : Path.Plain name.toList) :
    tree.resolve name = tree.step tree.workingDirectory name.toList := by
  have horigin : tree.origin name.toList = tree.workingDirectory := by
    rw [origin, if_neg]
    intro hhead
    exact plain.noSlash (List.mem_of_mem_head? hhead)
  rw [resolve_of_walk plain.nonempty plain.noZero, horigin, Path.segments_plain plain.noSlash,
    walk_singleton]

theorem segments_stay {tree : FileTree} {place next : Place} {stem : List Char}
    (h : tree.walk place (Path.segments stem) = .ok next)
    (hnode : tree.node? next = some .directory) :
    tree.walk place (Path.segments (stem ++ ['/'])) = .ok next := by
  have hstay : tree.step next [] = .ok next := by
    rw [step, hnode]
    exact if_pos (.inl rfl)
  rw [Path.segments_append_slash, walk_append h, Path.segments, walk_singleton, hstay]

section Stem

/-! A path of a directory and its stem, which lacks one slash at the end if there is one. -/

variable {tree : FileTree} {dir : String} {place : Place} {stem : List Char}

theorem zero_notMem_stem_iff (hstem : stem = dir.toList ∨ dir.toList = stem ++ ['/']) :
    '\x00' ∉ stem ↔ '\x00' ∉ dir.toList := by
  rcases hstem with rfl | hstem
  · rfl
  · have hslash : '\x00' ∉ ['/'] := by decide
    rw [hstem, List.mem_append, or_iff_left hslash]

/-- The stem leads where the directory path leads. -/
theorem walk_stem (hempty : dir.toList ≠ []) (hstem : stem = dir.toList ∨ dir.toList = stem ++ ['/'])
    (hwalk : tree.walk (tree.origin dir.toList) (Path.segments dir.toList) = .ok place)
    (after : List Char) :
    tree.walk (tree.origin (stem ++ '/' :: after)) (Path.segments stem) = .ok place := by
  rcases hstem with rfl | hstem
  · rw [origin_append hempty, hwalk]
  · rw [hstem, Path.segments_append_slash, Path.segments] at hwalk
    obtain ⟨next, hnext, hblank⟩ := walk_append_ok hwalk
    rw [origin_slash, hnext, walk_blank hblank]

/-- If the stem leads to a directory, a slash at the end stays there. -/
theorem walk_of_stem (hempty : dir.toList ≠ [])
    (hstem : stem = dir.toList ∨ dir.toList = stem ++ ['/']) {after : List Char}
    (hwalk : tree.walk (tree.origin (stem ++ '/' :: after)) (Path.segments stem) = .ok place)
    (hnode : tree.node? place = some .directory) :
    tree.walk (tree.origin dir.toList) (Path.segments dir.toList) = .ok place := by
  rcases hstem with rfl | hstem
  · rwa [origin_append hempty] at hwalk
  · rw [origin_slash] at hwalk
    rw [hstem]
    exact segments_stay hwalk hnode

end Stem

/-- A plain name joined to a directory is looked up in that directory. -/
theorem resolve_join {tree : FileTree} {dir : String} {place : Place}
    (hdir : tree.joinPlace dir = .ok place) {name : String} (plain : Path.Plain name.toList) :
    tree.resolve (Path.join dir name) = tree.step place name.toList := by
  unfold joinPlace at hdir
  split at hdir
  case isTrue hempty =>
    cases hdir
    rw [String.toList_eq_nil_iff.mp hempty, Path.join_empty, resolve_plain tree plain]
  case isFalse hempty =>
    obtain ⟨-, hzero, hwalk⟩ := resolve_ok hdir
    obtain ⟨stem, hjoin, hstem⟩ := Path.join_toList hempty name
    have hjoinEmpty : (Path.join dir name).toList ≠ [] := by
      rw [hjoin]
      simp
    have hjoinZero : '\x00' ∉ (Path.join dir name).toList := by
      rw [hjoin, List.mem_append, List.mem_cons]
      rintro (mem | same | mem)
      · exact (zero_notMem_stem_iff hstem).mpr hzero mem
      · exact absurd same (by decide)
      · exact plain.noZero mem
    rw [resolve_of_walk hjoinEmpty hjoinZero, hjoin, Path.segments_append_slash,
      walk_append (walk_stem hempty hstem hwalk name.toList), Path.segments_plain plain.noSlash,
      walk_singleton]

/-- Within a directory a plain name leads to its own place, if it is not too long. -/
theorem resolve_join_directory {tree : FileTree} {dir : String} {place : Place}
    (hdir : tree.joinPlace dir = .ok place) (hnode : tree.node? place = some .directory)
    {name : String} (plain : Path.Plain name.toList) :
    tree.resolve (Path.join dir name) =
      if longestName < byteLength name.toList then .error .longName
      else .ok (place ++ [name.toList]) :=
  (resolve_join hdir plain).trans (step_plain hnode plain)

/-- A path that joins a plain name to a directory leads to that name in the directory, or
nowhere. -/
theorem resolve_join_ok {tree : FileTree} {dir name : String} {place : Place}
    (plain : Path.Plain name.toList) (h : tree.resolve (Path.join dir name) = .ok place) :
    ∃ dirPlace, tree.joinPlace dir = .ok dirPlace ∧ tree.node? dirPlace = some .directory ∧
      place = dirPlace ++ [name.toList] := by
  have hinside {dirPlace : Place} (hdir : tree.joinPlace dir = .ok dirPlace) :
      tree.node? dirPlace = some .directory ∧ place = dirPlace ++ [name.toList] := by
    rw [resolve_join hdir plain] at h
    have hnode := step_directory h
    rw [step_plain hnode plain] at h
    split at h
    · cases h
    · cases h
      exact ⟨hnode, rfl⟩
  obtain ⟨dirPlace, hdir⟩ : ∃ dirPlace, tree.joinPlace dir = .ok dirPlace := by
    unfold joinPlace
    split
    case isTrue => exact ⟨_, rfl⟩
    case isFalse hempty =>
      obtain ⟨-, hzero, hwalk⟩ := resolve_ok h
      obtain ⟨stem, hjoin, hstem⟩ := Path.join_toList hempty name
      rw [hjoin] at hzero hwalk
      rw [Path.segments_append_slash] at hwalk
      obtain ⟨next, hnext, hname⟩ := walk_append_ok hwalk
      rw [Path.segments_plain plain.noSlash, walk_singleton] at hname
      have hzeroStem : '\x00' ∉ stem := fun mem => hzero (List.mem_append_left _ mem)
      refine ⟨next, ?_⟩
      rw [resolve_of_walk hempty ((zero_notMem_stem_iff hstem).mp hzeroStem)]
      exact walk_of_stem hempty hstem hnext (step_directory hname)
  obtain ⟨hnode, hplace⟩ := hinside hdir
  exact ⟨dirPlace, hdir, hnode, hplace⟩

/-- Text is written to a regular file, which holds its bytes from then on, or it is the empty text
and changes nothing in a full file. -/
theorem writeText_cases {tree after : FileTree} {path text : String}
    (h : tree.writeText path text = .ok after) :
    (∃ place, tree.openForWriting path = .ok (.regular place) ∧
      after = tree.put place (.file text.toByteArray)) ∨
    (tree.openForWriting path = .ok .full ∧ text = "" ∧ after = tree) := by
  unfold writeText write at h
  cases hopen : tree.openForWriting path with
  | error e => simp [hopen] at h
  | ok target =>
    cases target with
    | regular place =>
      simp only [hopen, Except.ok.injEq] at h
      exact .inl ⟨place, rfl, h.symm⟩
    | full =>
      simp only [hopen] at h
      split at h
      case isTrue hempty =>
        cases h
        have hsize : text.utf8ByteSize = 0 := by simpa [ByteArray.isEmpty] using hempty
        exact .inr ⟨rfl, String.utf8ByteSize_eq_zero_iff.mp hsize, rfl⟩
      case isFalse => cases h

/-- A file can be opened for writing where a path leads to no directory and to no full file. -/
theorem openForWriting_regular_iff {tree : FileTree} {path : String} {place : Place} :
    tree.openForWriting path = .ok (.regular place) ↔
      tree.resolve path = .ok place ∧ tree.node? place ≠ some .directory ∧
        tree.node? place ≠ some .full := by
  unfold openForWriting
  cases hresolve : tree.resolve path with
  | error e => simp
  | ok found =>
    simp only [Except.ok.injEq]
    constructor
    · intro h
      split at h
      · cases h
      · cases h
      · rename_i hdirectory hfull
        cases h
        exact ⟨rfl, hdirectory, hfull⟩
    · rintro ⟨rfl, hdirectory, hfull⟩
      split
      · rename_i hnode
        exact absurd hnode hdirectory
      · rename_i hnode
        exact absurd hnode hfull
      · rfl

/-- Text that was written opens a place which is no directory and holds its bytes from then on. -/
theorem writeText_ok {tree after : FileTree} {path text : String}
    (h : tree.writeText path text = .ok after) (htext : text ≠ "") :
    ∃ place, tree.resolve path = .ok place ∧ tree.node? place ≠ some .directory ∧
      after = tree.put place (.file text.toByteArray) := by
  rcases writeText_cases h with ⟨place, hopen, hafter⟩ | ⟨-, hempty, -⟩
  · obtain ⟨hplace, hnode, -⟩ := openForWriting_regular_iff.mp hopen
    exact ⟨place, hplace, hnode, hafter⟩
  · exact absurd hempty htext

theorem fromUTF8?_toByteArray (text : String) : String.fromUTF8? text.toByteArray = some text := by
  rw [String.fromUTF8?, dif_pos text.isValidUTF8]
  rfl

/-- A file that holds the bytes of a text is read as the text. -/
theorem readText_file {tree : FileTree} {path text : String} {place : Place}
    (hplace : tree.resolve path = .ok place)
    (hnode : tree.node? place = some (.file text.toByteArray)) :
    tree.readText path = .ok text := by
  simp only [readText, hplace, hnode, fromUTF8?_toByteArray]

/-- Every node of one tree stands in the other, seen from the same place. -/
structure Grows (before after : FileTree) : Prop where
  workingDirectory : after.workingDirectory = before.workingDirectory
  node (place : Place) {node : FileNode} :
    before.node? place = some node → after.node? place = some node

theorem Grows.keeps {before after : FileTree} (grows : Grows before after) :
    Keeps before after :=
  ⟨grows.workingDirectory, fun place h => grows.node place h⟩

/-- Nothing was done to a tree but that directories were made where nothing stood. -/
structure Makes (before after : FileTree) : Prop where
  workingDirectory : after.workingDirectory = before.workingDirectory
  node (place : Place) :
    after.node? place = before.node? place ∨
      before.node? place = none ∧ after.node? place = some .directory

theorem Makes.refl (tree : FileTree) : Makes tree tree := ⟨rfl, fun _ => .inl rfl⟩

theorem Makes.trans {before middle after : FileTree} (first : Makes before middle)
    (second : Makes middle after) : Makes before after := by
  refine ⟨second.workingDirectory.trans first.workingDirectory, fun place => ?_⟩
  rcases second.node place with hsame | ⟨hnone, hdirectory⟩
  · rw [hsame]
    exact first.node place
  · rcases first.node place with hsame | ⟨-, hmade⟩
    · rw [hsame] at hnone
      exact .inr ⟨hnone, hdirectory⟩
    · rw [hmade] at hnone
      cases hnone

theorem Makes.grows {before after : FileTree} (makes : Makes before after) :
    Grows before after := by
  refine ⟨makes.workingDirectory, fun place node h => ?_⟩
  rcases makes.node place with hsame | ⟨hnone, -⟩
  · rw [hsame, h]
  · rw [h] at hnone
    cases hnone

/-- Making directories makes, changes and removes no file. -/
theorem Makes.node_iff {before after : FileTree} (makes : Makes before after) {place : Place}
    {node : FileNode} (h : node ≠ .directory) :
    after.node? place = some node ↔ before.node? place = some node := by
  rcases makes.node place with hsame | ⟨hnone, hdirectory⟩
  · rw [hsame]
  · simp [hnone, hdirectory, h.symm]

theorem makes_put {tree : FileTree} {place : Place} (h : tree.node? place = none) :
    Makes tree (tree.put place .directory) := by
  refine ⟨rfl, fun other => ?_⟩
  by_cases hsame : other = place
  · subst hsame
    have hfree : tree.node? other ≠ some .directory := by simp [h]
    exact .inr ⟨h, node?_put_self tree (place_ne_nil hfree) _⟩
  · exact .inl (node?_put_of_ne tree hsame _)

theorem makeDirectories_makes {tree after : FileTree} {place : Place}
    {segments : List (List Char)} (h : tree.makeDirectories place segments = .ok after) :
    Makes tree after := by
  induction segments generalizing tree place with
  | nil =>
    cases h
    exact .refl _
  | cons segment rest ih =>
    rw [makeDirectories] at h
    split at h
    case h_1 => cases h
    case h_2 next hstep =>
      split at h
      case h_1 hnode => exact (makes_put hnode).trans (ih h)
      case h_2 => exact ih h
      case h_3 => cases h

theorem createDirectories_makes {tree after : FileTree} {path : String}
    (h : tree.createDirectories path = .ok after) : Makes tree after := by
  unfold createDirectories at h
  by_cases hempty : path.toList = []
  · simp only [hempty, if_true, Except.ok.injEq] at h
    cases h
    exact .refl _
  · by_cases hzero : '\x00' ∈ path.toList
    · simp [hempty, hzero] at h
    · simp only [hempty, hzero, if_false] at h
      exact makeDirectories_makes h

/-- Making a directory changes nothing that stood before. -/
theorem createDirectories_grows {tree after : FileTree} {path : String}
    (h : tree.createDirectories path = .ok after) : Grows tree after :=
  (createDirectories_makes h).grows

end BenchReport.FileTree
