import BenchReport.Number.Rounding

/-! Decimal numerals: a sign, digits with an optional point, and an optional exponent. -/
namespace BenchReport

/-- A numeral: its digits times a power of ten. -/
structure Numeral where
  negative : Bool
  digits : List Char
  exponent : Int
  deriving DecidableEq

namespace Numeral

def digitsValue (digits : List Char) : Nat := Nat.ofDigitChars 10 digits 0

def value (n : Numeral) : Binary64 :=
  Binary64.ofDecimal n.negative (digitsValue n.digits) n.exponent

/-- The exponent at the end of a numeral: nothing, or a letter, an optional sign and digits. -/
def readExponent? : List Char → Option Int
  | [] => some 0
  | letter :: rest =>
    if letter = 'e' || letter = 'E' then
      let (negative, digits) := match rest with
        | '+' :: digits => (false, digits)
        | '-' :: digits => (true, digits)
        | digits => (false, digits)
      if digits.isEmpty || !digits.all Char.isDigit then none
      else some (if negative then -(digitsValue digits : Int) else digitsValue digits)
    else none

/-- A numeral without its sign. The point may come first or last, but not alone. -/
def readUnsigned? (negative : Bool) (text : List Char) : Option Numeral :=
  let whole := text.takeWhile Char.isDigit
  let afterWhole := text.dropWhile Char.isDigit
  let (fraction, rest) := match afterWhole with
    | '.' :: after => (after.takeWhile Char.isDigit, after.dropWhile Char.isDigit)
    | after => ([], after)
  if whole.isEmpty && fraction.isEmpty then none
  else
    match readExponent? rest with
    | none => none
    | some exponent => some ⟨negative, whole ++ fraction, exponent - fraction.length⟩

end Numeral

/-- A word in lower case letters, whatever the case of its ASCII letters. -/
def lowered (text : List Char) : List Char := text.map Char.toLower

/-- The double that a text names: a numeral, or `inf`, `infinity` or `nan` in any case, after an
optional sign. Beyond the range it is infinite, or zero. -/
def Binary64.read? (text : List Char) : Option Binary64 :=
  let (negative, rest) := match text with
    | '+' :: rest => (false, rest)
    | '-' :: rest => (true, rest)
    | rest => (false, rest)
  let word := lowered rest
  if word = "inf".toList || word = "infinity".toList then some (.infinite negative)
  else if word = "nan".toList then some .nan
  else (Numeral.readUnsigned? negative rest).map Numeral.value

end BenchReport
