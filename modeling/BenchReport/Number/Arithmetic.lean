import BenchReport.Number.Rounding

/-! Sums, quotients and extremes of doubles. -/
namespace BenchReport.Binary64

/-- The signed value of a finite double in smallest magnitudes. -/
def signedMagnitude (negative : Bool) (rank : Nat) : Int :=
  if negative then -(magnitude rank : Int) else magnitude rank

/-- The double nearest to the exact sum. A sum of zero is negative only if both terms are. -/
def add : Binary64 → Binary64 → Binary64
  | nan, _ | _, nan => nan
  | infinite a, infinite b => if a = b then infinite a else nan
  | infinite a, finite _ _ | finite _ _, infinite a => infinite a
  | finite a j, finite b k =>
    let total := signedMagnitude a j + signedMagnitude b k
    if total = 0 then ofRank (a && b) 0 else ofRatio (total < 0) total.natAbs 1

def div : Binary64 → Binary64 → Binary64
  | nan, _ | _, nan => nan
  | infinite _, infinite _ => nan
  | infinite a, finite b _ => infinite (a != b)
  | finite a _, infinite b => ofRank (a != b) 0
  | finite a j, finite b k =>
    if k.val = 0 then if j.val = 0 then nan else infinite (a != b)
    else ofRatio (a != b) (magnitude j * unit) (magnitude k)

/-- The smaller number; NaN gives way to the other. -/
def min (x y : Binary64) : Binary64 :=
  if x.isNaN then y else if y.isNaN then x else if y.lt x then y else x

/-- The larger number; NaN gives way to the other. -/
def max (x y : Binary64) : Binary64 :=
  if x.isNaN then y else if y.isNaN then x else if x.lt y then y else x

/-- The sum from left to right, beginning with negative zero. -/
def sum (xs : List Binary64) : Binary64 := xs.foldl add negativeZero

end BenchReport.Binary64
