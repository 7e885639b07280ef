import BenchReport.Yaml.Scalar

/-!
The tokens of a YAML text. Blocks are marked by tokens of their own, made from the indentation; a
token that turns out to be a key gets its mark once the colon after it is met.
-/
namespace BenchReport.Yaml

/-- A token. -/
inductive Token
  | version (major minor : Nat)
  | handle (name start : String)
  | documentStart
  | documentEnd
  | blockSequence
  | blockMapping
  | blockEnd
  | flowSequence
  | flowSequenceEnd
  | flowMapping
  | flowMappingEnd
  | entry
  | flowEntry
  | key
  | value
  | alias (name : String)
  | anchor (name : String)
  | tag (handle suffix : String)
  | scalar (isPlain : Bool) (text : String)
  deriving DecidableEq

/-- A token that may turn out to be a key: which one it is, where it begins, and whether it has to
be a key. -/
structure KeyPlace where
  position : Nat
  index : Nat
  line : Nat
  column : Nat
  isRequired : Bool

/-- Tokens in the making: the place in the text, the tokens so far, backwards, the indents of the
open blocks from the innermost one, a possible key for each level of flow collections, and whether
a key may begin here. -/
structure Lexer where
  cursor : Cursor
  tokens : List Token
  count : Nat
  indent : Int
  outerIndents : List Int
  keys : List (Option KeyPlace)
  allowsKey : Bool

namespace Lexer

def start (text : List Char) : Lexer := ⟨.start text, [], 0, -1, [], [none], true⟩

def inFlow (l : Lexer) : Bool := 1 < l.keys.length

def push (l : Lexer) (token : Token) : Lexer :=
  { l with tokens := token :: l.tokens, count := l.count + 1 }

def insertAt (l : Lexer) (position : Nat) (token : Token) : Lexer :=
  { l with tokens := l.tokens.insertIdx (l.count - position) token, count := l.count + 1 }

/-- One more token, of so many characters. -/
def mark (l : Lexer) (token : Token) (length : Nat) : Lexer :=
  { l.push token with cursor := l.cursor.skip length }

/-- The lexer with another answer to whether a key may begin. -/
def allow (l : Lexer) (allowsKey : Bool) : Lexer := { l with allowsKey := allowsKey }

/-- How many characters may stand between the beginning of a key and its colon. -/
def longestKey : Nat := 1024

/-- Gives up possible keys that are on an earlier line or too far away, unless one of them has to
be a key. -/
def dropStaleKeys? (l : Lexer) : Option Lexer :=
  let isStale (key : KeyPlace) : Bool :=
    key.line < l.cursor.line || key.index + longestKey < l.cursor.index
  if l.keys.any fun key => key.any fun key => isStale key && key.isRequired then none
  else some { l with keys := l.keys.map fun key => key.filter fun key => !isStale key }

/-- Gives up the possible key of this level, unless it has to be one. -/
def dropKey? (l : Lexer) : Option Lexer :=
  match l.keys with
  | [] => some l
  | key :: outer =>
    if key.any KeyPlace.isRequired then none else some { l with keys := none :: outer }

def noteKey? (l : Lexer) : Option Lexer :=
  if l.allowsKey then
    let c := l.cursor
    let isRequired := !l.inFlow && l.indent == c.column
    l.dropKey?.map fun l =>
      { l with keys := some ⟨l.count, c.index, c.line, c.column, isRequired⟩ :: l.keys.tail }
  else some l

/-- Opens a block at a column right of the current one; its token goes to the given position. -/
def openBlock (l : Lexer) (column : Nat) (position : Nat) (token : Token) : Lexer :=
  if !l.inFlow && l.indent < column then
    { l with indent := column, outerIndents := l.indent :: l.outerIndents }.insertAt position token
  else l

def closeBlocks (column : Int) : List Int → Lexer → Lexer
  | [], l => l
  | outer :: rest, l =>
    if !l.inFlow && column < l.indent then
      closeBlocks column rest { l.push .blockEnd with indent := outer, outerIndents := rest }
    else l

def closeTo (l : Lexer) (column : Int) : Lexer := closeBlocks column l.outerIndents l

/-- The lexer after blanks, comments and line breaks. A line break lets a key begin. -/
def skipBlanks : Nat → Lexer → Lexer
  | 0, l => l
  | fuel + 1, l =>
    let c := if l.cursor.index == 0 && l.cursor.isAt '\ufeff' then l.cursor.skip else l.cursor
    let c := c.skipWhile fun x => x == ' ' || ((l.inFlow || !l.allowsKey) && x == '\t')
    let c := if c.isAt '#' then c.skipWhile fun x => !isBreak x else c
    match c.readBreak? with
    | some (_, next) =>
      skipBlanks fuel { l with cursor := next, allowsKey := l.allowsKey || !l.inFlow }
    | none => { l with cursor := c }

/-- Characters of the names of anchors, handles and directives. -/
def isWordChar (c : Char) : Bool := c.isAlphanum || c == '_' || c == '-'

/-- A part of a tag, and the place after it. -/
abbrev TagPart := Option (List Char × Cursor)

/-- The handle of a tag: a bang, and perhaps a name with another bang. -/
def readHandle? (isDirective : Bool) (c : Cursor) : TagPart :=
  if !c.isAt '!' then none
  else
    let name := c.skip.rest.takeWhile isWordChar
    let c := c.skip (name.length + 1)
    if c.isAt '!' then some ('!' :: (name ++ ['!']), c.skip)
    else if isDirective && !name.isEmpty then none
    else some ('!' :: name, c)

/-- The bytes of percent escapes at the start of a text. -/
def escapedBytes? : List Char → Option (List UInt8)
  | '%' :: a :: b :: rest =>
    match hexValue? [a, b], escapedBytes? rest with
    | some n, some bytes => some (UInt8.ofNat n :: bytes)
    | _, _ => none
  | '%' :: _ => none
  | _ => some []

/-- Characters of tags; some stand only in whole addresses. -/
def isTagChar (isAddress : Bool) (c : Char) : Bool :=
  isWordChar c || ";/?:@&=+$.!~*'()".toList.contains c ||
    (isAddress && (c == ',' || c == '[' || c == ']'))

def readTagText? (isAddress : Bool) : Nat → List Char → Cursor → TagPart
  | 0, text, c => some (text, c)
  | fuel + 1, text, c =>
    if c.isAt '%' then
      match escapedBytes? c.rest with
      | none => none
      | some bytes =>
        match String.fromUTF8? ⟨bytes.toArray⟩ with
        | none => none
        | some s => readTagText? isAddress fuel (text ++ s.toList) (c.skip (3 * bytes.length))
    else
      let more := c.rest.takeWhile (isTagChar isAddress)
      if more.isEmpty then some (text, c)
      else readTagText? isAddress fuel (text ++ more) (c.skip more.length)

/-- The rest of a tag, which has to be there. -/
def readNonemptyTag? (isAddress : Bool) (c : Cursor) : TagPart :=
  match readTagText? isAddress (c.rest.length + 1) [] c with
  | some ([], _) => none
  | part => part

/-- A tag, and the place after it. -/
def readTag? (c : Cursor) : Option (Token × Cursor) :=
  if c.rest.drop 1 |>.head?.any (· == '<') then
    match readNonemptyTag? true (c.skip 2) with
    | none => none
    | some (suffix, c) =>
      if c.isAt '>' then some (.tag "" (String.ofList suffix), c.skip) else none
  else
    match readHandle? false c with
    | none => none
    | some (handle, c) =>
      if 1 < handle.length && handle.getLast? == some '!' then
        (readNonemptyTag? false c).map fun (suffix, c) =>
          (.tag (String.ofList handle) (String.ofList suffix), c)
      else
        (readTagText? false (c.rest.length + 1) (handle.drop 1) c).map fun (suffix, c) =>
          if suffix.isEmpty then (.tag "" "!", c) else (.tag "!" (String.ofList suffix), c)

/-- A number of a version, of at most nine digits. -/
def readVersionNumber? (c : Cursor) : Option (Nat × Cursor) :=
  let digits := c.rest.takeWhile Char.isDigit
  if digits.isEmpty || 9 < digits.length then none
  else some (Nat.ofDigitChars 10 digits 0, c.skip digits.length)

/-- A directive after its percent sign, up to the end of its content. -/
def readDirective? (c : Cursor) : Option (Token × Cursor) :=
  let name := c.rest.takeWhile isWordChar
  let c := c.skip name.length
  if !endsWord c.rest then none
  else if name = "YAML".toList then do
    let (major, c) ← readVersionNumber? (c.skipWhile isBlank)
    if !c.isAt '.' then none
    let (minor, c) ← readVersionNumber? c.skip
    some (.version major minor, c)
  else if name = "TAG".toList then do
    let (handle, c) ← readHandle? true (c.skipWhile isBlank)
    if !c.isIn isBlank then none
    let (start, c) ← readNonemptyTag? true (c.skipWhile isBlank)
    if !endsWord c.rest then none
    some (.handle (String.ofList handle) (String.ofList start), c)
  else none

def addDirective? (l : Lexer) : Option Lexer := do
  let l ← (l.closeTo (-1)).dropKey?
  let (token, c) ← readDirective? l.cursor.skip
  let c := c.skipComment
  if !(c.rest.isEmpty || c.isIn isBreak) then none
  some { l.push token with cursor := c.skipBreak, allowsKey := false }

def addDocumentMark? (l : Lexer) (token : Token) : Option Lexer :=
  (l.closeTo (-1)).dropKey?.map fun l => (l.mark token 3).allow false

def openFlow? (l : Lexer) (token : Token) : Option Lexer :=
  l.noteKey?.map fun l => { l.mark token 1 with keys := none :: l.keys, allowsKey := true }

def closeFlow? (l : Lexer) (token : Token) : Option Lexer :=
  l.dropKey?.map fun l =>
    { l.mark token 1 with keys := if l.inFlow then l.keys.tail else l.keys, allowsKey := false }

def addFlowEntry? (l : Lexer) : Option Lexer :=
  l.dropKey?.map fun l => (l.mark .flowEntry 1).allow true

def addEntry? (l : Lexer) : Option Lexer :=
  if !l.inFlow && !l.allowsKey then none
  else
    (l.openBlock l.cursor.column l.count .blockSequence).dropKey?.map fun l =>
      (l.mark .entry 1).allow true

def addKey? (l : Lexer) : Option Lexer :=
  if !l.inFlow && !l.allowsKey then none
  else
    (l.openBlock l.cursor.column l.count .blockMapping).dropKey?.map fun l =>
      (l.mark .key 1).allow !l.inFlow

/-- The colon before a value; a token before it that may be a key becomes one. -/
def addValue? (l : Lexer) : Option Lexer :=
  match l.keys.head?.join with
  | some key =>
    let l := (l.insertAt key.position .key).openBlock key.column key.position .blockMapping
    some (({ l with keys := none :: l.keys.tail }.mark .value 1).allow false)
  | none =>
    if !l.inFlow && !l.allowsKey then none
    else
      some (((l.openBlock l.cursor.column l.count .blockMapping).mark .value 1).allow !l.inFlow)

def addName? (l : Lexer) (token : String → Token) : Option Lexer := do
  let l ← l.noteKey?
  let name := l.cursor.rest.tail.takeWhile isWordChar
  let c := l.cursor.skip (name.length + 1)
  let ends := endsWord c.rest || c.isIn fun x => "?:,]\x7d%@\x60".toList.contains x
  if name.isEmpty || !ends then none
  some { l.push (token (String.ofList name)) with cursor := c, allowsKey := false }

def addTag? (l : Lexer) : Option Lexer := do
  let l ← l.noteKey?
  let (token, c) ← readTag? l.cursor
  if !(endsWord c.rest || (l.inFlow && c.isAt ',')) then none
  some { l.push token with cursor := c, allowsKey := false }

def addBlock? (l : Lexer) (isLiteral : Bool) : Option Lexer := do
  let l ← l.dropKey?
  let (text, c) ← readBlock? isLiteral l.indent l.cursor.skip
  some { l.push (.scalar false (String.ofList text)) with cursor := c, allowsKey := true }

def addQuoted? (l : Lexer) (quote : Char) : Option Lexer := do
  let l ← l.noteKey?
  let (text, c) ← readQuoted? quote (l.cursor.rest.length + 1) [] l.cursor.skip
  some { l.push (.scalar false (String.ofList text)) with cursor := c, allowsKey := false }

def addPlain? (l : Lexer) : Option Lexer := do
  let l ← l.noteKey?
  let (text, endsLine, c) ←
    readPlain? l.inFlow (l.indent + 1) (l.cursor.rest.length + 1) [] .none l.cursor
  some { l.push (.scalar true (String.ofList text)) with cursor := c, allowsKey := endsLine }

/-- Whether a plain scalar may begin with these characters. -/
def beginsPlain (inFlow : Bool) (c : Char) (rest : List Char) : Bool :=
  !(isBlank c || isBreak c || "-?:,[]\x7b\x7d#&*!|>'\"%@\x60".toList.contains c) ||
    (c == '-' && !rest.head?.any isBlank) ||
    (!inFlow && (c == '?' || c == ':') && !endsWord rest)

/-- One more token at a place that is not the end of the text. -/
def addToken? (l : Lexer) (c : Char) (rest : List Char) : Option Lexer :=
  if l.cursor.column == 0 && c == '%' then l.addDirective?
  else if l.cursor.isAtMark '-' then l.addDocumentMark? .documentStart
  else if l.cursor.isAtMark '.' then l.addDocumentMark? .documentEnd
  else if c == '[' then l.openFlow? .flowSequence
  else if c == '\x7b' then l.openFlow? .flowMapping
  else if c == ']' then l.closeFlow? .flowSequenceEnd
  else if c == '\x7d' then l.closeFlow? .flowMappingEnd
  else if c == ',' then l.addFlowEntry?
  else if c == '-' && endsWord rest then l.addEntry?
  else if c == '?' && (l.inFlow || endsWord rest) then l.addKey?
  else if c == ':' && (l.inFlow || endsWord rest) then l.addValue?
  else if c == '*' then l.addName? .alias
  else if c == '&' then l.addName? .anchor
  else if c == '!' then l.addTag?
  else if c == '|' && !l.inFlow then l.addBlock? true
  else if c == '>' && !l.inFlow then l.addBlock? false
  else if c == '\'' || c == '"' then l.addQuoted? c
  else if beginsPlain l.inFlow c rest then l.addPlain?
  else none

/-- The tokens from a place on, in order. -/
def run? : Nat → Lexer → Option (List Token)
  | 0, _ => none
  | fuel + 1, l =>
    match (skipBlanks (l.cursor.rest.length + 1) l).dropStaleKeys? with
    | none => none
    | some l =>
      let l := l.closeTo l.cursor.column
      match l.cursor.rest with
      | [] => (l.closeTo (-1)).dropKey?.map fun l => l.tokens.reverse
      | c :: rest =>
        match l.addToken? c rest with
        | none => none
        | some l => run? fuel l

end Lexer

def tokens? (text : List Char) : Option (List Token) :=
  if text.all isAllowed then (Lexer.start text).run? (text.length + 1) else none

end BenchReport.Yaml
