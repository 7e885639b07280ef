import BenchReport.Proofs.File.Tree
import BenchReport.Proofs.Number.FixedPoint
import BenchReport.Reporter.Csv

/-! The value column of a CSV file, read from its text, is the samples with six decimals. -/
namespace BenchReport.Csv

/-- The lines of a text; the last need not be ended. -/
def lines : List Char → List (List Char)
  | [] => []
  | c :: rest =>
    if c = '\n' then [] :: lines rest
    else
      match lines rest with
      | [] => [[c]]
      | first :: more => (c :: first) :: more

/-- What stands after the first comma of a line. -/
def secondCell (line : List Char) : List Char := (line.dropWhile (· ≠ ',')).drop 1

/-- The second cell of every line of a file. -/
def valueColumn? (content : ByteArray) : Option (List (List Char)) :=
  (String.fromUTF8? content).map fun text => (lines text.toList).map secondCell

/-- The values of samples as a file shows them. -/
def printed (results : List Binary64) : List (List Char) := results.map (Binary64.fixedPoint 6)

/-- The content of the file of samples whose first timestamp is given. -/
def fileContent (stamp : Int) (results : List Binary64) : ByteArray :=
  (String.ofList (rows stamp results).flatten).toByteArray

theorem lines_append {line : List Char} (h : '\n' ∉ line) (rest : List Char) :
    lines (line ++ '\n' :: rest) = line :: lines rest := by
  induction line with
  | nil => rw [List.nil_append, lines, if_pos rfl]
  | cons c line ih =>
    have hc : c ≠ '\n' := fun e => h (by simp [e])
    have hline : '\n' ∉ line := fun mem => h (List.mem_cons_of_mem _ mem)
    rw [List.cons_append, lines, if_neg hc, ih hline]

theorem secondCell_append {cell : List Char} (h : ',' ∉ cell) (rest : List Char) :
    secondCell (cell ++ ',' :: rest) = rest := by
  have hall : ∀ c ∈ cell, decide (c ≠ ',') = true := by
    intro c hc
    apply decide_eq_true
    rintro rfl
    exact h hc
  rw [secondCell, List.dropWhile_append_of_pos hall, List.dropWhile_cons_of_neg (by decide)]
  rfl

theorem digit_of_mem_repr {n : Nat} {c : Char} (h : c ∈ (Nat.repr n).toList) :
    c.isDigit = true := by
  rw [Nat.toList_repr] at h
  exact Nat.isDigit_of_mem_toDigits (by decide) (by decide) h

theorem mem_stamp {stamp : Int} {c : Char} (h : c ∈ (toString stamp).toList) :
    c.isDigit = true ∨ c = '-' := by
  cases stamp with
  | ofNat n => exact .inl (digit_of_mem_repr h)
  | negSucc n =>
    have hminus : (toString (Int.negSucc n)).toList = '-' :: (Nat.repr n.succ).toList :=
      String.toList_append
    rw [hminus] at h
    rcases List.mem_cons.mp h with rfl | h
    · exact .inr rfl
    · exact .inl (digit_of_mem_repr h)

theorem newline_not_mem_fixedPoint (places : Nat) (x : Binary64) :
    '\n' ∉ x.fixedPoint places := by
  cases x with
  | nan =>
    rw [Binary64.fixedPoint]
    decide
  | infinite negative =>
    rw [Binary64.fixedPoint]
    cases negative <;> decide
  | finite negative rank =>
    rw [Binary64.fixedPoint_finite]
    have hpoint := Binary64.not_mem_withPoint (c := '\n') (by decide) (by decide) places
      (Binary64.decimalUnits places rank)
    cases negative with
    | false => exact hpoint
    | true =>
      intro h
      rcases List.mem_cons.mp h with h | h
      · exact absurd h (by decide)
      · exact hpoint h

theorem lines_rows (stamp : Int) (results : List Binary64) :
    (lines (rows stamp results).flatten).map secondCell = printed results := by
  induction results generalizing stamp with
  | nil => rfl
  | cons value rest ih =>
    have hcomma : ',' ∉ (toString stamp).toList := by
      intro h
      rcases mem_stamp h with h | h
      · exact absurd h (by decide)
      · exact absurd h (by decide)
    have hline : '\n' ∉ (toString stamp).toList ++ ',' :: value.fixedPoint 6 := by
      intro h
      rcases List.mem_append.mp h with h | h
      · rcases mem_stamp h with h | h
        · exact absurd h (by decide)
        · exact absurd h (by decide)
      · rcases List.mem_cons.mp h with h | h
        · exact absurd h (by decide)
        · exact newline_not_mem_fixedPoint 6 value h
    have hrow : (rows stamp (value :: rest)).flatten =
        ((toString stamp).toList ++ ',' :: value.fixedPoint 6) ++
          '\n' :: (rows (stamp + 1) rest).flatten := by
      simp [rows, row]
    rw [hrow, lines_append hline, List.map_cons, secondCell_append hcomma, ih]
    rfl

/-- Whatever the first timestamp is, a file of samples shows their values line by line. -/
theorem valueColumn?_fileContent (stamp : Int) (results : List Binary64) :
    valueColumn? (fileContent stamp results) = some (printed results) := by
  rw [valueColumn?, fileContent, FileTree.fromUTF8?_toByteArray, Option.map_some,
    String.toList_ofList, lines_rows]

end BenchReport.Csv
