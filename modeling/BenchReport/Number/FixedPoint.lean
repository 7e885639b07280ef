import BenchReport.Number.Rounding

/-! Numbers with a fixed count of decimals. -/
namespace BenchReport.Binary64

/-- Digits with a point before the last `places` of them, after zeros where they are too few. -/
def withPoint (places : Nat) (digits : List Char) : List Char :=
  let padded := List.replicate (places + 1 - digits.length) '0' ++ digits
  let whole := padded.length - places
  padded.take whole ++ '.' :: padded.drop whole

/-- The exact value rounded to so many decimals, at least one; a tie goes to the even digit, and
a negative zero keeps its sign. -/
def fixedPoint (places : Nat) : Binary64 → List Char
  | nan => ['N', 'a', 'N']
  | infinite negative => if negative then ['-', 'i', 'n', 'f'] else ['i', 'n', 'f']
  | finite negative rank =>
    let digits := Nat.toDigits 10 (roundHalfEven (magnitude rank * Nat.pow 10 places) unit)
    if negative then '-' :: withPoint places digits else withPoint places digits

end BenchReport.Binary64
