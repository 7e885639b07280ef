import BenchReport.Json.Value
import BenchReport.Number.Shortest

/-! JSON text: compact, or with one element a line and two spaces of indent a level. -/
namespace BenchReport.Json

/-- How a character stands in a string: only quotes, backslashes and control characters are
escaped. -/
def escapedChar (c : Char) : List Char :=
  if c = '"' then ['\\', '"']
  else if c = '\\' then ['\\', '\\']
  else if c = '\x08' then ['\\', 'b']
  else if c = '\t' then ['\\', 't']
  else if c = '\n' then ['\\', 'n']
  else if c = '\x0c' then ['\\', 'f']
  else if c = '\r' then ['\\', 'r']
  else if c.toNat < 16 then ['\\', 'u', '0', '0', '0', Nat.digitChar c.toNat]
  else if c.toNat < 32 then ['\\', 'u', '0', '0', '1', Nat.digitChar (c.toNat - 16)]
  else [c]

def stringText (text : List Char) : List Char := '"' :: (text.flatMap escapedChar ++ ['"'])

/-- A decimal with a point while its first digit is worth between a hundred-thousandth and a
quadrillion, and otherwise with an exponent that always has a sign. -/
def decimalText (d : Decimal) : List Char :=
  if -5 ≤ d.leading ∧ d.leading ≤ 15 then
    if d.leading < 0 then
      '0' :: '.' :: (List.replicate (-d.leading - 1).toNat '0' ++ d.digits)
    else
      let whole := d.leading.toNat + 1
      let padded := d.digits ++ List.replicate (whole - d.digits.length) '0'
      let fraction := padded.drop whole
      padded.take whole ++ '.' :: (if fraction.isEmpty then ['0'] else fraction)
  else
    let mantissa := match d.digits with
      | first :: second :: rest => first :: '.' :: second :: rest
      | digits => digits
    let exponent := Nat.toDigits 10 d.leading.natAbs
    mantissa ++ 'e' :: (if d.leading < 0 then '-' else '+') :: exponent

/-- The shortest text that reads back to the number. JSON has no NaN and no infinities: they are
written as `null`. -/
def numberText : Binary64 → List Char
  | .nan | .infinite _ => ['n', 'u', 'l', 'l']
  | .finite negative rank =>
    let text := if rank.val = 0 then ['0', '.', '0'] else decimalText (Decimal.shortest rank)
    if negative then '-' :: text else text

namespace Value

mutual

def compact : Value → List Char
  | .null => ['n', 'u', 'l', 'l']
  | .bool true => ['t', 'r', 'u', 'e']
  | .bool false => ['f', 'a', 'l', 's', 'e']
  | .number x => numberText x
  | .string s => stringText s.toList
  | .list [] => ['[', ']']
  | .list (first :: rest) => '[' :: (first.compact ++ compactItems rest)
  | .object [] => ['\x7b', '\x7d']
  | .object ((key, first) :: rest) =>
    '\x7b' :: (stringText key.toList ++ ':' :: (first.compact ++ compactMembers rest))
termination_by structural v => v

/-- The items after the first, and the end of the list. -/
def compactItems : List Value → List Char
  | [] => [']']
  | next :: rest => ',' :: (next.compact ++ compactItems rest)
termination_by structural items => items

/-- The members after the first, and the end of the object. -/
def compactMembers : List (String × Value) → List Char
  | [] => ['\x7d']
  | (key, next) :: rest =>
    ',' :: (stringText key.toList ++ ':' :: (next.compact ++ compactMembers rest))
termination_by structural members => members

end

def newline (level : Nat) : List Char := '\n' :: List.replicate (2 * level) ' '

mutual

/-- The value with one element a line; its inner lines are one level further in. -/
def prettyAt (level : Nat) : Value → List Char
  | .null => ['n', 'u', 'l', 'l']
  | .bool true => ['t', 'r', 'u', 'e']
  | .bool false => ['f', 'a', 'l', 's', 'e']
  | .number x => numberText x
  | .string s => stringText s.toList
  | .list [] => ['[', ']']
  | .list (first :: rest) =>
    '[' :: (newline (level + 1) ++ (first.prettyAt (level + 1) ++ prettyItems level rest))
  | .object [] => ['\x7b', '\x7d']
  | .object ((key, first) :: rest) =>
    '\x7b' :: (newline (level + 1) ++ (stringText key.toList ++
      ':' :: ' ' :: (first.prettyAt (level + 1) ++ prettyMembers level rest)))
termination_by structural v => v

/-- The items after the first, and the end of the list. -/
def prettyItems (level : Nat) : List Value → List Char
  | [] => newline level ++ [']']
  | next :: rest =>
    ',' :: (newline (level + 1) ++ (next.prettyAt (level + 1) ++ prettyItems level rest))
termination_by structural items => items

/-- The members after the first, and the end of the object. -/
def prettyMembers (level : Nat) : List (String × Value) → List Char
  | [] => newline level ++ ['\x7d']
  | (key, next) :: rest =>
    ',' :: (newline (level + 1) ++ (stringText key.toList ++
      ':' :: ' ' :: (next.prettyAt (level + 1) ++ prettyMembers level rest)))
termination_by structural members => members

end

def compactText (v : Value) : String := String.ofList v.compact

def prettyText (v : Value) : String := String.ofList (v.prettyAt 0)

end Value

end BenchReport.Json
