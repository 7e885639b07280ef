/-! Sets of code points given by the points at which membership changes. -/
namespace BenchReport.Text

/-- Membership in the set whose ascending boundaries are given: it begins outside, and every
boundary changes sides. -/
def insideBoundaries (boundaries : List Nat) (point : Nat) : Bool :=
  (boundaries.takeWhile (· ≤ point)).length % 2 == 1

end BenchReport.Text
