import BenchReport.Number.Arithmetic

/-! What a series of samples comes to, and when its samples were taken. -/
namespace BenchReport.Report

/-- Count, extremes and mean of samples. -/
structure Stats where
  samples : Nat
  min : Binary64
  mean : Binary64
  max : Binary64
  deriving DecidableEq

/-- The statistics of samples, if there is one. The extremes pass over NaN, the mean does not. -/
def Stats.ofValues (values : List Binary64) : Option Stats :=
  if values.isEmpty then none
  else
    some
      { samples := values.length
        min := values.foldl Binary64.min (.infinite false)
        mean := (Binary64.sum values).div (Binary64.ofNat values.length)
        max := values.foldl Binary64.max (.infinite true) }

/-- Minutes between one sample and the next. -/
def sampleInterval : Nat := 3

/-- The minute of each of so many samples; the first is taken after one interval. -/
def sampleMinutes (count : Nat) : List Nat :=
  (List.range count).map fun i => (i + 1) * sampleInterval

end BenchReport.Report
