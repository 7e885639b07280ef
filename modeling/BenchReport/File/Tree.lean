import BenchReport.File.Path

/-!
A tree of directories and files, seen from a working directory. Paths are resolved step by step,
and every directory on the way has to exist.
-/
namespace BenchReport

/-- Why a file cannot be read or written. -/
inductive FileError
  | notFound | isDirectory | notDirectory | longName | zeroInName | badText | noSpace
  deriving DecidableEq

local instance (priority := high) bytesDecidableEq : DecidableEq ByteArray :=
  ByteArray.instDecidableEq

/-- What stands at a place of the tree. A full file opens for writing, but takes no byte. -/
inductive FileNode
  | directory
  | file (content : ByteArray)
  | full
  deriving DecidableEq

/-- A place in the tree: the names on the way from the root. -/
abbrev Place := List (List Char)

/-- A tree of files, by place. The root is always a directory. Symbolic links, hard links and
permissions are left out of it. -/
structure FileTree where
  workingDirectory : Place
  nodes : List (Place × FileNode)

namespace FileTree

/-- The places on the way to a place, below another. -/
def placesBelow (top : Place) : List (List Char) → List Place
  | [] => []
  | name :: rest => (top ++ [name]) :: placesBelow (top ++ [name]) rest

/-- A working directory of which no content is known. -/
def ofWorkingDirectory (place : Place) : FileTree :=
  ⟨place, (placesBelow [] place).map (·, .directory)⟩

def start : FileTree := ofWorkingDirectory ["bench".toList]

def node? (tree : FileTree) (place : Place) : Option FileNode :=
  if place = [] then some .directory
  else (tree.nodes.find? fun entry => entry.1 = place).map (·.2)

def put (tree : FileTree) (place : Place) (node : FileNode) : FileTree :=
  { tree with nodes := (place, node) :: tree.nodes.filter fun entry => entry.1 ≠ place }

@[simp] theorem node?_put_self (tree : FileTree) {place : Place} (h : place ≠ [])
    (node : FileNode) : (tree.put place node).node? place = some node := by
  simp [node?, put, h]

theorem node?_put_of_ne (tree : FileTree) {place other : Place} (h : other ≠ place)
    (node : FileNode) : (tree.put place node).node? other = tree.node? other := by
  have : (tree.nodes.filter fun entry => entry.1 ≠ place).find? (fun entry => entry.1 = other) =
      tree.nodes.find? fun entry => entry.1 = other := by
    rw [List.find?_filter]
    congr 1
    funext entry
    by_cases same : entry.1 = other <;> simp [same, h]
  simp only [node?, put]
  rw [List.find?_cons_of_neg (by simpa using h.symm), this]

/-- The longest file name, in bytes. -/
def longestName : Nat := 255

/-- The number of bytes of a name. -/
def byteLength (name : List Char) : Nat := name.foldl (fun bytes c => bytes + c.utf8Size) 0

/-- The place one step further; the steps so far have to lead to a directory. -/
def step (tree : FileTree) (place : Place) (segment : List Char) : Except FileError Place :=
  match tree.node? place with
  | none => .error .notFound
  | some .directory =>
    if segment = [] ∨ segment = ['.'] then .ok place
    else if segment = ['.', '.'] then .ok place.dropLast
    else if longestName < byteLength segment then .error .longName
    else .ok (place ++ [segment])
  | some _ => .error .notDirectory

def walk (tree : FileTree) (place : Place) : List (List Char) → Except FileError Place
  | [] => .ok place
  | segment :: rest =>
    match tree.step place segment with
    | .error e => .error e
    | .ok next => walk tree next rest

def origin (tree : FileTree) (path : List Char) : Place :=
  if path.head? = some '/' then [] else tree.workingDirectory

/-- The place that a path leads to; the empty path leads nowhere. -/
def resolve (tree : FileTree) (path : String) : Except FileError Place :=
  let text := path.toList
  if text = [] then .error .notFound
  else if '\x00' ∈ text then .error .zeroInName
  else tree.walk (tree.origin text) (Path.segments text)

def isDirectory (tree : FileTree) (path : String) : Bool :=
  match tree.resolve path with
  | .ok place => tree.node? place == some .directory
  | .error _ => false

def readText (tree : FileTree) (path : String) : Except FileError String :=
  match tree.resolve path with
  | .error e => .error e
  | .ok place =>
    match tree.node? place with
    | none => .error .notFound
    | some .directory => .error .isDirectory
    | some .full => .error .noSpace
    | some (.file content) =>
      match String.fromUTF8? content with
      | some text => .ok text
      | none => .error .badText

/-- A file opened for writing. -/
inductive Target
  | regular (place : Place)
  | full

/-- Opens a file for writing, or makes it. -/
def openForWriting (tree : FileTree) (path : String) : Except FileError Target :=
  match tree.resolve path with
  | .error e => .error e
  | .ok place =>
    match tree.node? place with
    | some .directory => .error .isDirectory
    | some .full => .ok .full
    | _ => .ok (.regular place)

def write (tree : FileTree) (path : String) (content : ByteArray) : Except FileError FileTree :=
  match tree.openForWriting path with
  | .error e => .error e
  | .ok .full => if content.isEmpty then .ok tree else .error .noSpace
  | .ok (.regular place) => .ok (tree.put place (.file content))

def writeText (tree : FileTree) (path : String) (text : String) : Except FileError FileTree :=
  tree.write path text.toByteArray

/-- Makes the directories that segments lead through where they are missing. -/
def makeDirectories (tree : FileTree) (place : Place) :
    List (List Char) → Except FileError FileTree
  | [] => .ok tree
  | segment :: rest =>
    match tree.step place segment with
    | .error e => .error e
    | .ok next =>
      match tree.node? next with
      | none => makeDirectories (tree.put next .directory) next rest
      | some .directory => makeDirectories tree next rest
      | some _ => .error .notDirectory

/-- Makes a directory with all its parents. The empty path names the working directory. -/
def createDirectories (tree : FileTree) (path : String) : Except FileError FileTree :=
  let text := path.toList
  if text = [] then .ok tree
  else if '\x00' ∈ text then .error .zeroInName
  else makeDirectories tree (tree.origin text) (Path.segments text)

/-- The nodes that are not as they were in an earlier tree. -/
def changes (before after : FileTree) : List (Place × FileNode) :=
  after.nodes.filter fun (place, node) => before.node? place ≠ some node

/-- The files whose content is new since an earlier tree, by their path from the working
directory. -/
def changedFiles (before after : FileTree) : List (String × ByteArray) :=
  (changes before after).filterMap fun (place, node) =>
    match node with
    | .file content =>
      if after.workingDirectory.isPrefixOf place then
        let below := place.drop after.workingDirectory.length
        some (String.ofList (['/'].intercalate below), content)
      else none
    | _ => none

end FileTree

end BenchReport
