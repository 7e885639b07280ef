import BenchReport.Yaml.Cursor
import BenchReport.Json.Reader

/-! The texts of YAML scalars: plain, quoted, and in blocks. -/
namespace BenchReport.Yaml

/-- Blanks and line breaks inside a scalar: the blanks before the first break, and the breaks. -/
structure Gap where
  blanks : List Char
  breaks : List Char

namespace Gap

def none : Gap := ⟨[], []⟩

/-- What a gap stands for in a text: its blanks; or a space in the place of one break, and of
several breaks all but the first. -/
def folded (gap : Gap) : List Char :=
  match gap.breaks with
  | [] => gap.blanks
  | first :: more =>
    if first = '\n' then if more.isEmpty then [' '] else more else first :: more

/-- The gap at a place, given the breaks before it, and the place after it. After a break no tab
may stand left of the indent. -/
def read? (indent : Int) : Nat → Gap → Bool → Cursor → Option (Gap × Cursor)
  | 0, gap, _, c => some (gap, c)
  | fuel + 1, gap, afterBreak, c =>
    match c.readBreak? with
    | some (x, next) => read? indent fuel ⟨[], gap.breaks ++ [x]⟩ true next
    | Option.none =>
      match c.head? with
      | some x =>
        if !isBlank x then some (gap, c)
        else if afterBreak then
          if x == '\t' && c.column < indent then Option.none
          else read? indent fuel gap afterBreak c.skip
        else read? indent fuel { gap with blanks := gap.blanks ++ [x] } afterBreak c.skip
      | Option.none => some (gap, c)

end Gap

/-- Indicators of flow collections, which end plain scalars inside them. -/
def isFlowIndicator (c : Char) : Bool :=
  c == ',' || c == '[' || c == ']' || c == '\x7b' || c == '\x7d'

/-- The characters of a plain scalar up to the next blank or indicator. In a flow collection a
colon must not stand right before an indicator. -/
def plainWord? (inFlow : Bool) : List Char → Option (List Char)
  | [] => some []
  | c :: rest =>
    if isBlank c || isBreak c then some []
    else if inFlow && c == ':' && rest.head?.any (fun d => isFlowIndicator d || d == '?') then none
    else if c == ':' && endsWord rest then some []
    else if inFlow && isFlowIndicator c then some []
    else (plainWord? inFlow rest).map (c :: ·)

/-- A plain scalar from a place on, after the text and gap before: its text, whether the gap that
ends it has a line break, and the place after it. -/
def readPlain? (inFlow : Bool) (indent : Int) :
    Nat → List Char → Gap → Cursor → Option (List Char × Bool × Cursor)
  | 0, text, gap, c => some (text, !gap.breaks.isEmpty, c)
  | fuel + 1, text, gap, c =>
    if c.isAtDocumentMark || c.isAt '#' then some (text, !gap.breaks.isEmpty, c)
    else
      match plainWord? inFlow c.rest with
      | none => none
      | some word =>
        let text := if word.isEmpty then text else text ++ gap.folded ++ word
        let c := c.skip word.length
        if !c.isIn (fun x => isBlank x || isBreak x) then
          some (text, word.isEmpty && !gap.breaks.isEmpty, c)
        else
          match Gap.read? indent c.rest.length .none false c with
          | none => none
          | some (gap, c) =>
            if !inFlow && c.column < indent then some (text, !gap.breaks.isEmpty, c)
            else readPlain? inFlow indent fuel text gap c

/-- The character of an escape in double quotes, and how many hexadecimal digits follow it
instead. -/
def escape? (c : Char) : Option (Char ⊕ Nat) :=
  match c with
  | '0' => some (.inl '\x00')
  | 'a' => some (.inl '\x07')
  | 'b' => some (.inl '\x08')
  | 't' | '\t' => some (.inl '\t')
  | 'n' => some (.inl '\n')
  | 'v' => some (.inl '\x0b')
  | 'f' => some (.inl '\x0c')
  | 'r' => some (.inl '\r')
  | 'e' => some (.inl '\x1b')
  | ' ' => some (.inl ' ')
  | '"' => some (.inl '"')
  | '/' => some (.inl '/')
  | '\\' => some (.inl '\\')
  | 'N' => some (.inl '\u0085')
  | '_' => some (.inl '\u00a0')
  | 'L' => some (.inl '\u2028')
  | 'P' => some (.inl '\u2029')
  | 'x' => some (.inr 2)
  | 'u' => some (.inr 4)
  | 'U' => some (.inr 8)
  | _ => none

def hexValue? (digits : List Char) : Option Nat :=
  digits.foldlM (fun n c => (Json.hexDigit? c).map (n * 16 + ·)) 0

def hexChar? (count : Nat) (text : List Char) : Option Char :=
  if text.length < count then none
  else
    match hexValue? (text.take count) with
    | some n => if h : n.isValidChar then some (Char.ofNatAux n h) else none
    | none => none

/-- How a word in quotes ends: at the closing quote, at a blank or break, or at an escaped line
break. -/
inductive WordEnd
  | quote | gap | escapedBreak

/-- The characters of a quoted scalar up to the next blank, its end, or an escaped line break, and
how many characters they take. -/
def quotedWord? (quote : Char) : Nat → List Char → Nat → List Char →
    Option (List Char × WordEnd × Nat)
  | 0, _, _, _ => none
  | fuel + 1, text, used, source =>
    match source with
    | [] => some (text.reverse, .gap, used)
    | c :: rest =>
      if isBlank c || isBreak c then some (text.reverse, .gap, used)
      else if c == quote then
        if quote == '\'' && rest.head? == some '\'' then
          quotedWord? quote fuel ('\'' :: text) (used + 2) (rest.drop 1)
        else some (text.reverse, .quote, used)
      else if quote == '"' && c == '\\' then
        match rest with
        | [] => none
        | d :: rest =>
          if isBreak d then some (text.reverse, .escapedBreak, used + 1)
          else
            match escape? d with
            | none => none
            | some (.inl x) => quotedWord? quote fuel (x :: text) (used + 2) rest
            | some (.inr count) =>
              match hexChar? count rest with
              | none => none
              | some x =>
                quotedWord? quote fuel (x :: text) (used + 2 + count) (rest.drop count)
      else quotedWord? quote fuel (c :: text) (used + 1) rest

/-- A quoted scalar after its opening quote and some text: its text and the place after the
closing quote. -/
def readQuoted? (quote : Char) : Nat → List Char → Cursor → Option (List Char × Cursor)
  | 0, _, _ => none
  | fuel + 1, text, c =>
    if c.isAtDocumentMark || c.rest.isEmpty then none
    else
      match quotedWord? quote (c.rest.length + 1) [] 0 c.rest with
      | none => none
      | some (word, ending, used) =>
        let text := text ++ word
        let c := c.skip used
        match ending with
        | .quote => some (text, c.skip)
        | .gap =>
          match Gap.read? 0 c.rest.length .none false c with
          | none => none
          | some (gap, c) => readQuoted? quote fuel (text ++ gap.folded) c
        | .escapedBreak =>
          let c := c.skipBreak
          match Gap.read? 0 c.rest.length .none true c with
          | none => none
          | some (gap, c) => readQuoted? quote fuel (text ++ gap.breaks) c

/-- What becomes of the line breaks at the end of a block scalar. -/
inductive Chomping
  | strip | clip | keep
  deriving DecidableEq

/-- The marks after the indicator of a block scalar, in either order: its chomping, and its indent
relative to the block around it. -/
def readBlockMarks? (c : Cursor) : Option (Chomping × Option Nat × Cursor) :=
  let chomping? (c : Cursor) : Option Chomping :=
    match c.head? with
    | some '+' => some .keep
    | some '-' => some .strip
    | _ => none
  let indent? (c : Cursor) : Option Nat :=
    (c.rest.head?.filter Char.isDigit).map fun d => d.toNat - 48
  match chomping? c, indent? c with
  | some chomping, _ =>
    match indent? c.skip with
    | none => some (chomping, none, c.skip)
    | some 0 => none
    | some n => some (chomping, some n, c.skip 2)
  | none, none => some (.clip, none, c)
  | none, some 0 => none
  | none, some n =>
    match chomping? c.skip with
    | some chomping => some (chomping, some n, c.skip 2)
    | none => some (.clip, some n, c.skip)

/-- Indentation and empty lines before a line of a block scalar: the widest indentation met, the
line breaks, and the place after them. While the indent is not known it is zero; no tab may stand
where indentation is wanted. -/
def readBlockBreaks? (indent : Int) : Nat → Nat → List Char → Cursor →
    Option (Nat × List Char × Cursor)
  | 0, widest, breaks, c => some (widest, breaks, c)
  | fuel + 1, widest, breaks, c =>
    let spaces := (c.rest.takeWhile (· == ' ')).length
    let wanted := if indent = 0 then spaces else min spaces (indent - c.column).toNat
    let c := c.skip wanted
    let widest := max widest c.column
    if (indent = 0 || c.column < indent) && c.isAt '\t' then none
    else
      match c.readBreak? with
      | some (x, next) => readBlockBreaks? indent fuel widest (breaks ++ [x]) next
      | none => some (widest, breaks, c)

/-- The lines of a block scalar: its text so far, the break after its last line, and the breaks of
the empty lines since. -/
structure BlockText where
  text : List Char
  lastBreak : List Char
  emptyLines : List Char
  afterBlank : Bool

/-- What joins the next line of a block scalar to the text before it. In a folded scalar one break
between lines that begin with no blank becomes a space. -/
def BlockText.joint (block : BlockText) (isLiteral beginsBlank : Bool) : List Char :=
  if !isLiteral && block.lastBreak == ['\n'] && !block.afterBlank && !beginsBlank then
    if block.emptyLines.isEmpty then [' '] else block.emptyLines
  else block.lastBreak ++ block.emptyLines

def readBlockLines? (isLiteral : Bool) (indent : Nat) : Nat → BlockText → Cursor →
    Option (BlockText × Cursor)
  | 0, block, c => some (block, c)
  | fuel + 1, block, c =>
    if c.column != indent || c.rest.isEmpty then some (block, c)
    else
      let beginsBlank := c.isIn isBlank
      let line := c.rest.takeWhile fun x => !isBreak x
      let text := block.text ++ block.joint isLiteral beginsBlank ++ line
      let c := c.skip line.length
      let (lastBreak, c) := match c.readBreak? with
        | some (x, next) => ([x], next)
        | none => ([], c)
      match readBlockBreaks? indent (c.rest.length + 1) 0 [] c with
      | none => none
      | some (_, emptyLines, c) =>
        readBlockLines? isLiteral indent fuel ⟨text, lastBreak, emptyLines, beginsBlank⟩ c

/-- A block scalar after its indicator, in a block of this indent: its text and the place after
it. -/
def readBlock? (isLiteral : Bool) (parent : Int) (c : Cursor) : Option (List Char × Cursor) :=
  match readBlockMarks? c with
  | none => none
  | some (chomping, increment, c) =>
    let c := c.skipComment
    if !(c.rest.isEmpty || c.isIn isBreak) then none
    else
      let c := c.skipBreak
      let given : Int := match increment with
        | some n => if 0 ≤ parent then parent + n else n
        | none => 0
      match readBlockBreaks? given (c.rest.length + 1) 0 [] c with
      | none => none
      | some (widest, emptyLines, c) =>
        let indent : Int := if given = 0 then max (max widest (parent + 1)) 1 else given
        let start := ⟨[], [], emptyLines, false⟩
        match readBlockLines? isLiteral indent.toNat (c.rest.length + 1) start c with
        | none => none
        | some (block, c) =>
          let ending := match chomping with
            | .strip => []
            | .clip => block.lastBreak
            | .keep => block.lastBreak ++ block.emptyLines
          some (block.text ++ ending, c)

end BenchReport.Yaml
