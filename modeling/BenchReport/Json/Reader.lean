import BenchReport.Json.Tree
import BenchReport.Number.Numeral

/-! Reading JSON text into a tree. -/
namespace BenchReport.Json

def isGap (c : Char) : Bool := c == ' ' || c == '\n' || c == '\t' || c == '\r'

def skipGap (text : List Char) : List Char := text.dropWhile isGap

/-- A part of a string: a character, or an escaped UTF-16 unit. -/
inductive Piece
  | char (c : Char)
  | unit (n : Nat)
  deriving DecidableEq

/-- How a string ends: with its quote, before the rest of the text, or at a fault. -/
inductive Closing
  | quote (rest : List Char)
  | cut (fault : Fault)

def hexDigit? (c : Char) : Option Nat :=
  if '0' ≤ c ∧ c ≤ '9' then some (c.toNat - 48)
  else if 'a' ≤ c ∧ c ≤ 'f' then some (c.toNat - 87)
  else if 'A' ≤ c ∧ c ≤ 'F' then some (c.toNat - 55)
  else none

/-- The number that four hexadecimal digits stand for. -/
def hexUnit? (a b c d : Char) : Option Nat :=
  match hexDigit? a, hexDigit? b, hexDigit? c, hexDigit? d with
  | some a, some b, some c, some d => some (((a * 16 + b) * 16 + c) * 16 + d)
  | _, _, _, _ => none

def shortEscape? (c : Char) : Option Char :=
  match c with
  | '"' => some '"'
  | '\\' => some '\\'
  | '/' => some '/'
  | 'b' => some '\x08'
  | 'f' => some '\x0c'
  | 'n' => some '\n'
  | 'r' => some '\r'
  | 't' => some '\t'
  | _ => none

/-- Four digits have to follow; where fewer than four bytes are left, the text is cut off. -/
def unitFault (rest : List Char) : Fault :=
  if rest.foldl (fun bytes c => bytes + c.utf8Size) 0 < 4 then .truncated else .malformed

def pieces : List Char → List Piece × Closing
  | [] => ([], .cut .truncated)
  | '"' :: rest => ([], .quote rest)
  | ['\\'] => ([], .cut .truncated)
  | '\\' :: 'u' :: a :: b :: c :: d :: rest =>
    match hexUnit? a b c d with
    | some n => let (more, closing) := pieces rest; (.unit n :: more, closing)
    | none => ([], .cut (unitFault (a :: b :: c :: d :: rest)))
  | '\\' :: 'u' :: rest => ([], .cut (unitFault rest))
  | '\\' :: c :: rest =>
    match shortEscape? c with
    | some c => let (more, closing) := pieces rest; (.char c :: more, closing)
    | none => ([], .cut .malformed)
  | c :: rest =>
    if c.toNat < 32 then ([], .cut .malformed)
    else let (more, closing) := pieces rest; (.char c :: more, closing)

/-- Units that begin a pair. -/
def isHigh (n : Nat) : Bool := 0xD800 ≤ n && n < 0xDC00

/-- Units that end a pair. -/
def isLow (n : Nat) : Bool := 0xDC00 ≤ n && n < 0xE000

/-- The text of the parts, if every unit of a pair has its partner. -/
def joined? : List Piece → Option (List Char)
  | [] => some []
  | .char c :: rest => (joined? rest).map (c :: ·)
  | [.unit n] => if isHigh n || isLow n then none else some [Char.ofNat n]
  | .unit n :: .char c :: rest =>
    if isHigh n || isLow n then none
    else (joined? rest).map fun text => Char.ofNat n :: c :: text
  | .unit n :: .unit m :: rest =>
    if isHigh n then
      if isLow m then
        (joined? rest).map (Char.ofNat (0x10000 + (n - 0xD800) * 0x400 + (m - 0xDC00)) :: ·)
      else none
    else if isLow n then none
    else (joined? (.unit m :: rest)).map (Char.ofNat n :: ·)

/-- The fault for a reader that wants the text of a string that breaks off: a unit without its
partner comes first, unless the partner could still have followed. -/
def cutFault (fault : Fault) : List Piece → Fault
  | [] => fault
  | .char _ :: rest => cutFault fault rest
  | [.unit n] => if isLow n then .malformed else fault
  | .unit n :: .char _ :: rest => if isHigh n || isLow n then .malformed else cutFault fault rest
  | .unit n :: .unit m :: rest =>
    if isHigh n then if isLow m then cutFault fault rest else .malformed
    else if isLow n then .malformed
    else cutFault fault (.unit m :: rest)

/-- The string after an opening quote, and the text after it. A string without Unicode text is
`none`. -/
def readString (text : List Char) : Except Break (Option String × List Char) :=
  match pieces text with
  | (parts, .quote rest) => .ok ((joined? parts).map String.ofList, rest)
  | (parts, .cut fault) => .error ⟨cutFault fault parts, fault⟩

/-- The end of the text inside a number: a reader that wants the number misses the rest of it,
and one that passes over it finds no digit. -/
def numberCut : Break := ⟨.truncated, .malformed⟩

/-- The digits of a number before its point: no zero before another digit. -/
def readWhole : List Char → Except Break (List Char × List Char)
  | [] => .error numberCut
  | '0' :: rest =>
    if (rest.takeWhile Char.isDigit).isEmpty then .ok (['0'], rest) else .error (.both .malformed)
  | c :: rest =>
    if c.isDigit then .ok (c :: rest.takeWhile Char.isDigit, rest.dropWhile Char.isDigit)
    else .error (.both .malformed)

def readDigits (text : List Char) : Except Break (List Char × List Char) :=
  let digits := text.takeWhile Char.isDigit
  let rest := text.dropWhile Char.isDigit
  if digits.isEmpty then .error (if rest.isEmpty then numberCut else .both .malformed)
  else .ok (digits, rest)

/-- The digits after a point, if there is one. -/
def readFraction : List Char → Except Break (Option (List Char) × List Char)
  | '.' :: rest => (readDigits rest).map fun (digits, rest) => (some digits, rest)
  | text => .ok (none, text)

/-- The exponent, if there is one. -/
def readExponent : List Char → Except Break (Option Int × List Char)
  | [] => .ok (none, [])
  | letter :: rest =>
    if letter = 'e' || letter = 'E' then
      let (negative, digits) := match rest with
        | '+' :: digits => (false, digits)
        | '-' :: digits => (true, digits)
        | digits => (false, digits)
      (readDigits digits).map fun (digits, rest) =>
        let size : Int := Numeral.digitsValue digits
        (some (if negative then -size else size), rest)
    else .ok (none, letter :: rest)

/-- The node of a number. Without point and exponent it is an integer while it fits 64 bits, but
`-0` is a real number; a real number beyond the range has a node of its own. -/
def numberNode (negative : Bool) (whole : List Char) (fraction : Option (List Char))
    (exponent : Option Int) : Tree :=
  let size := Numeral.digitsValue whole
  let digits := whole ++ fraction.getD []
  let x := (Numeral.mk negative digits (exponent.getD 0 - (fraction.getD []).length)).value
  let real := if x.isFinite then Tree.real x else .tooLarge
  if fraction.isSome || exponent.isSome then real
  else if negative then if 0 < size ∧ size ≤ Nat.pow 2 63 then .integer (-size) else real
  else if size < Nat.pow 2 64 then .integer size
  else real

def readNumber (negative : Bool) (text : List Char) : Except Break (Tree × List Char) :=
  match readWhole text with
  | .error b => .error b
  | .ok (whole, rest) =>
    match readFraction rest with
    | .error b => .error b
    | .ok (fraction, rest) =>
      match readExponent rest with
      | .error b => .error b
      | .ok (exponent, rest) => .ok (numberNode negative whole fraction exponent, rest)

def readWord : List Char → List Char → Except Break (List Char)
  | [], text => .ok text
  | _ :: _, [] => .error (.both .truncated)
  | c :: word, d :: text => if c = d then readWord word text else .error (.both .malformed)

/-- A node read, and the text after it unless the node is broken. -/
abbrev Reading (α : Type) := α × Option (List Char)

def leaf : Except Break (Tree × List Char) → Reading Tree
  | .ok (tree, rest) => (tree, some rest)
  | .error b => (.broken b, none)

mutual

/-- The value at the start of a text. The fuel bounds the nesting and the number of elements. -/
def readValue : Nat → List Char → Reading Tree
  | 0, _ => (.broken (.both .truncated), none)
  | fuel + 1, text =>
    match skipGap text with
    | [] => (.broken (.both .truncated), none)
    | '"' :: rest =>
      leaf ((readString rest).map fun (text, rest) =>
        (match text with | some text => .string text | none => .unpaired, rest))
    | '[' :: rest => let (items, rest) := readItems fuel rest; (.list items, rest)
    | '\x7b' :: rest => let (members, rest) := readMembers fuel rest; (.object members, rest)
    | 'n' :: rest => leaf ((readWord ['u', 'l', 'l'] rest).map (.null, ·))
    | 't' :: rest => leaf ((readWord ['r', 'u', 'e'] rest).map (.bool true, ·))
    | 'f' :: rest => leaf ((readWord ['a', 'l', 's', 'e'] rest).map (.bool false, ·))
    | '-' :: rest => leaf (readNumber true rest)
    | c :: rest =>
      if c.isDigit then leaf (readNumber false (c :: rest)) else (.broken (.both .malformed), none)
termination_by structural fuel => fuel

def readItems : Nat → List Char → Reading Items
  | 0, _ => (.stop (.both .truncated), none)
  | fuel + 1, text =>
    match skipGap text with
    | ']' :: rest => (.close, some rest)
    | [] => (.stop (.both .truncated), none)
    | text =>
      match readValue fuel text with
      | (value, none) => (.item value .close, none)
      | (value, some rest) =>
        let (more, rest) := readMoreItems fuel rest
        (.item value more, rest)
termination_by structural fuel => fuel

/-- The items after another item. A comma promises one. -/
def readMoreItems : Nat → List Char → Reading Items
  | 0, _ => (.stop (.both .truncated), none)
  | fuel + 1, text =>
    match skipGap text with
    | ']' :: rest => (.close, some rest)
    | [] => (.stop (.both .truncated), none)
    | ',' :: rest =>
      match readValue fuel rest with
      | (value, none) => (.item value .close, none)
      | (value, some rest) =>
        let (more, rest) := readMoreItems fuel rest
        (.item value more, rest)
    | _ => (.stop (.both .malformed), none)
termination_by structural fuel => fuel

def readMembers : Nat → List Char → Reading Members
  | 0, _ => (.stop (.both .truncated), none)
  | fuel + 1, text =>
    match skipGap text with
    | '\x7d' :: rest => (.close, some rest)
    | text => readMember fuel text
termination_by structural fuel => fuel

def readMember : Nat → List Char → Reading Members
  | 0, _ => (.stop (.both .truncated), none)
  | fuel + 1, text =>
    match skipGap text with
    | [] => (.keyless .truncated (.broken (.both .truncated)), none)
    | '"' :: rest =>
      match readString rest with
      | .error b => (.stop b, none)
      | .ok (key, rest) =>
        match skipGap rest with
        | [] => (.member key (.broken (.both .truncated)) .close, none)
        | ':' :: rest =>
          match readValue fuel rest with
          | (value, none) => (.member key value .close, none)
          | (value, some rest) =>
            let (more, rest) := readMoreMembers fuel rest
            (.member key value more, rest)
        | _ => (.member key (.broken (.both .malformed)) .close, none)
    | text => (.keyless .malformed (readValue fuel text).1, none)
termination_by structural fuel => fuel

/-- The members after another member. A comma promises one. -/
def readMoreMembers : Nat → List Char → Reading Members
  | 0, _ => (.stop (.both .truncated), none)
  | fuel + 1, text =>
    match skipGap text with
    | '\x7d' :: rest => (.close, some rest)
    | [] => (.stop (.both .truncated), none)
    | ',' :: rest => readMember fuel rest
    | _ => (.stop (.both .malformed), none)
termination_by structural fuel => fuel

end

/-- The value that a text begins with, and the text after it. -/
def readTree (text : List Char) : Reading Tree := readValue (3 * text.length + 3) text

end BenchReport.Json
