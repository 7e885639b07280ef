/-! A place in a YAML text: what follows it, and where it is. -/
namespace BenchReport.Yaml

/-- A place in a text. The column counts the characters before it on its line. -/
structure Cursor where
  rest : List Char
  index : Nat
  line : Nat
  column : Nat

def isAllowed (c : Char) : Bool :=
  let point := c.toNat
  point == 9 || point == 10 || point == 13 || (32 ≤ point && point ≤ 126) || point == 0x85 ||
    (0xA0 ≤ point && point ≤ 0xFFFD) || 0x10000 ≤ point

def isBlank (c : Char) : Bool := c == ' ' || c == '\t'

/-- Line separators. -/
def isBreak (c : Char) : Bool :=
  c == '\n' || c == '\r' || c == '\u0085' || c == '\u2028' || c == '\u2029'

/-- Whether a blank, a line break or the end of the text comes first. -/
def endsWord : List Char → Bool
  | [] => true
  | c :: _ => isBlank c || isBreak c

namespace Cursor

def start (text : List Char) : Cursor := ⟨text, 0, 0, 0⟩

def head? (c : Cursor) : Option Char := c.rest.head?

def isAt (c : Cursor) (x : Char) : Bool := c.head? == some x

def isIn (c : Cursor) (inClass : Char → Bool) : Bool := c.head?.any inClass

/-- The place after so many characters of the same line. -/
def skip (c : Cursor) (count : Nat := 1) : Cursor :=
  ⟨c.rest.drop count, c.index + count, c.line, c.column + count⟩

/-- The place after the characters of a class, all of the same line. -/
def skipWhile (c : Cursor) (inClass : Char → Bool) : Cursor :=
  c.skip (c.rest.takeWhile inClass).length

/-- The character that a line break counts as, and the place after it. -/
def readBreak? (c : Cursor) : Option (Char × Cursor) :=
  match c.rest with
  | '\r' :: '\n' :: rest => some ('\n', ⟨rest, c.index + 2, c.line + 1, 0⟩)
  | x :: rest =>
    if isBreak x then
      some (if x == '\u2028' || x == '\u2029' then x else '\n', ⟨rest, c.index + 1, c.line + 1, 0⟩)
    else none
  | [] => none

/-- The place after a line break, if there is one. -/
def skipBreak (c : Cursor) : Cursor :=
  match c.readBreak? with
  | some (_, next) => next
  | none => c

def skipComment (c : Cursor) : Cursor :=
  let c := c.skipWhile isBlank
  if c.isAt '#' then c.skipWhile fun x => !isBreak x else c

/-- Whether a mark of three characters stands alone at the beginning of a line. -/
def isAtMark (c : Cursor) (x : Char) : Bool :=
  c.column == 0 && c.rest.take 3 == [x, x, x] && endsWord (c.rest.drop 3)

def isAtDocumentMark (c : Cursor) : Bool := c.isAtMark '-' || c.isAtMark '.'

end Cursor

end BenchReport.Yaml
