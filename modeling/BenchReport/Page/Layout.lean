import BenchReport.Page.Tag
import BenchReport.Text.Blank

/-!
From the source of a page to its template. A block tag or comment that stands alone on a line
takes the line with it, and a tilde in a tag takes all blanks on its side.
-/
namespace BenchReport.Page

open Json (isGap)

/-- A part of the source: blanks alone, text, or a tag and whether it stands alone on its line. -/
inductive Piece
  | blank (text : List Char)
  | text (content : List Char)
  | tag (tag : Tag) (isAlone : Bool)

def isSpace (c : Char) : Bool := c == ' ' || c == '\t'

def isLineEnd (c : Char) : Bool := c == '\n' || c == '\r'

/-- The text up to the next tag, and the source from there, after so many backslashes. A backslash
before two braces makes them text; of several backslashes before a tag one goes away. -/
def readText (slashes : Nat) : List Char → List Char × List Char
  | [] => (List.replicate slashes '\\', [])
  | '\\' :: rest => readText (slashes + 1) rest
  | '\x7b' :: '\x7b' :: rest =>
    match slashes with
    | 0 => ([], '\x7b' :: '\x7b' :: rest)
    | 1 =>
      match rest with
      | '\x7b' :: '\x7b' :: rest =>
        let (text, rest) := readText 0 rest
        ('\x7b' :: '\x7b' :: '\x7b' :: '\x7b' :: text, rest)
      | rest =>
        let (text, rest) := readText 0 rest
        ('\x7b' :: '\x7b' :: text, rest)
    | slashes + 2 => (List.replicate (slashes + 1) '\\', '\x7b' :: '\x7b' :: rest)
  | c :: rest =>
    let (text, rest) := readText 0 rest
    (List.replicate slashes '\\' ++ c :: text, rest)

/-- Whether nothing but spaces stands on the line before a place, given the source before it
backwards. -/
def isLineStart (before : List Char) : Bool :=
  match before.dropWhile isSpace with
  | [] => true
  | c :: _ => isLineEnd c

/-- Whether nothing but spaces stands on the line after a place, and the line ends. -/
def isLineRest (after : List Char) : Bool := (after.dropWhile isSpace).head?.any isLineEnd

/-- The parts of a source, given the source before it backwards. -/
def readPieces? : Nat → List Char → List Char → Option (List Piece)
  | 0, _, _ => none
  | fuel + 1, before, source =>
    let gap := source.takeWhile isGap
    let before := gap.reverse ++ before
    match source.dropWhile isGap with
    | [] => some (if gap.isEmpty then [] else [.blank gap])
    | '\x7b' :: '\x7b' :: rest =>
      match readTag? rest with
      | none => none
      | some (tag, after) =>
        let isAlone := isLineStart before && isLineRest after
        let spelled := '\x7b' :: '\x7b' :: rest.take (rest.length - after.length)
        (readPieces? fuel (spelled.reverse ++ before) after).map fun more =>
          (if gap.isEmpty then [] else [.blank gap]) ++ .tag tag isAlone :: more
    | rest =>
      let (text, after) := readText 0 rest
      let spelled := rest.take (rest.length - after.length)
      (readPieces? fuel (spelled.reverse ++ before) after).map (.text (gap ++ text) :: ·)

/-- A block that is not closed yet: what stands before it, backwards, its finished alternatives,
and the call that opens the current one, unless that is the last. -/
structure OpenBlock where
  outer : List Element
  name : String
  finished : List (Head × Template)
  current : Option Head

/-- A page in the making: the current template, backwards, the open blocks from the innermost one,
and which blanks are dropped from what comes next. -/
structure Draft where
  elements : List Element
  blocks : List OpenBlock
  dropsBlanks : Bool
  dropsLine : Bool

namespace Draft

def empty : Draft := ⟨[], [], false, false⟩

def mapLastText (draft : Draft) (change : List Char → List Char) : Draft :=
  match draft.elements with
  | .text content :: rest => { draft with elements := .text (change content) :: rest }
  | _ => draft

def push (draft : Draft) (element : Element) : Draft :=
  { draft with elements := element :: draft.elements }

/-- A text without the rest of the line on which a tag stands alone. -/
def dropLine (content : List Char) : List Char :=
  match content.dropWhile isSpace with
  | '\r' :: '\n' :: rest => rest
  | '\n' :: rest => rest
  | rest => rest

/-- A text, less what is dropped from its start. -/
def pushText (draft : Draft) (content : List Char) (dropsBlanks : Bool) : Draft :=
  let content :=
    if dropsBlanks then Text.trimStart content
    else if draft.dropsLine then dropLine content
    else content
  { draft.push (.text content) with dropsLine := false }

def template (draft : Draft) : Template := draft.elements.reverse

/-- The block that alternatives make; each one after the first stands in the place of the
other's. -/
def chain : List (Head × Template) → Option Template → Option Template
  | [], otherwise => otherwise
  | (head, body) :: rest, otherwise => some [.block head body (chain rest otherwise)]

def close? (draft : Draft) (name : String) : Option Draft :=
  match draft.blocks with
  | [] => none
  | block :: blocks =>
    if block.name = name then
      let (alternatives, otherwise) :=
        match block.current with
        | some head => (block.finished ++ [(head, draft.template)], none)
        | none => (block.finished, some draft.template)
      let elements := ((chain alternatives otherwise).getD []) ++ block.outer
      some { draft with elements := elements, blocks := blocks }
    else none

/-- Begins the next alternative of the innermost block, unless the last one has begun. -/
def branch? (draft : Draft) (next : Option Head) : Option Draft :=
  match draft.blocks with
  | [] => none
  | block :: blocks =>
    match block.current with
    | none => none
    | some head =>
      let block :=
        { block with finished := block.finished ++ [(head, draft.template)], current := next }
      some { draft with elements := [], blocks := block :: blocks }

def openBlock (draft : Draft) (head : Head) : Draft :=
  { draft with
    elements := []
    blocks := ⟨draft.elements, head.name, [], some head⟩ :: draft.blocks }

/-- What a tag that may take its line does to the blanks around it. -/
def takeLine (draft : Draft) (isAlone : Bool) : Draft :=
  { if isAlone then draft.mapLastText (Text.dropEndWhile isSpace) else draft with
    dropsLine := isAlone }

def addTag? (draft : Draft) (tag : Tag) (isAlone : Bool) : Option Draft :=
  match tag.mark with
  | .comment => some ((draft.takeLine isAlone).push .comment)
  | mark =>
    let draft := if tag.trimsBefore then draft.mapLastText Text.trimEnd else draft
    let draft := { draft with dropsBlanks := tag.trimsAfter }
    match mark with
    | .value target => some (draft.push (.value target))
    | .call name params options => some (draft.push (.call name params options))
    | .opening head => some ((draft.takeLine isAlone).openBlock head)
    | .branch next => (draft.takeLine isAlone).branch? next
    | .closing name => (draft.takeLine isAlone).close? name
    | .comment => some draft
    | .inclusion => some ({ draft with dropsLine := isAlone }.push .inclusion)

def add? (draft : Draft) (piece : Piece) : Option Draft :=
  match piece with
  | .blank text => some (if draft.dropsBlanks then draft else draft.pushText text false)
  | .text content => some (draft.pushText content draft.dropsBlanks)
  | .tag tag isAlone => draft.addTag? tag isAlone

end Draft

/-- The template that a source spells: its tags are well formed and its blocks balanced. -/
def parse? (source : String) : Option Template :=
  let text := source.toList
  match readPieces? (text.length + 1) [] text with
  | none => none
  | some pieces =>
    match pieces.foldlM Draft.add? Draft.empty with
    | none => none
    | some draft => if draft.blocks.isEmpty then some draft.template else none

end BenchReport.Page
