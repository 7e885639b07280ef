import BenchReport.Proofs.File.Components
import BenchReport.Proofs.FileName
import BenchReport.Reporter.Csv
import Mathlib.Data.List.Infix

/-!
Base names are the safe names: each is safe, and a safe name is its own base name. So the file of a
measurement is one component below the report directory.
-/
namespace BenchReport.FileName

/-- A name that is safe as it stands: of safe characters, with no point first and no dash beside
another, and more than a dash. -/
structure SafeName (name : List Char) : Prop where
  nonempty : name ≠ []
  chars : ∀ c ∈ name, Safe c
  noPoint : name.head? ≠ some '.'
  noRun : ¬['-', '-'] <:+: name
  notDash : name ≠ ['-']

theorem safeName_fallback : SafeName fallback.toList where
  nonempty := by decide
  chars _ h := safe_of_mem_fallback h
  noPoint := by decide
  noRun := by decide
  notDash := by decide

theorem safeChar?_of_safe {c : Char} (h : Safe c) : safeChar? c = some c := by
  have hjoins : ¬(c = ' ' ∨ c = '&' ∨ c = '_' ∨ c = '=' ∨ c = '+' ∨ c = ':') := by
    rintro (rfl | rfl | rfl | rfl | rfl | rfl) <;> exact absurd h (by decide)
  rw [safeChar?, if_neg hjoins]
  exact if_pos h

/-! ## Runs of dashes -/

section

variable {c : Char} {text : List Char}

theorem run_cons_iff : ['-', '-'] <:+: c :: text ↔
    (c = '-' ∧ text.head? = some '-') ∨ ['-', '-'] <:+: text := by
  have hhead : ['-'] <+: text ↔ text.head? = some '-' := by
    cases text with
    | nil => simp
    | cons d rest => simp [List.cons_prefix_cons, eq_comm]
  rw [List.infix_cons_iff, List.cons_prefix_cons, hhead, eq_comm]

theorem head?_squeezeDashes (text : List Char) : (squeezeDashes text).head? = text.head? := by
  induction text with
  | nil => rfl
  | cons c rest ih =>
    rw [squeezeDashes]
    split
    case isTrue h => rw [ih, h.2, List.head?_cons, h.1]
    case isFalse => rfl

theorem not_run_squeezeDashes (text : List Char) : ¬['-', '-'] <:+: squeezeDashes text := by
  induction text with
  | nil => decide
  | cons c rest ih =>
    rw [squeezeDashes]
    split
    case isTrue => exact ih
    case isFalse h =>
      rw [run_cons_iff, head?_squeezeDashes]
      exact not_or.mpr ⟨h, ih⟩

theorem squeezeDashes_of_not_run (h : ¬['-', '-'] <:+: text) : squeezeDashes text = text := by
  induction text with
  | nil => rfl
  | cons c rest ih =>
    rw [run_cons_iff, not_or] at h
    rw [squeezeDashes, if_neg h.1, ih h.2]

end

/-! ## Base names -/

theorem safeName_baseName (name : String) : SafeName (baseName name).toList := by
  unfold baseName
  dsimp only
  split
  case isTrue => exact safeName_fallback
  case isFalse h =>
    rw [not_or] at h
    rw [String.toList_ofList]
    refine ⟨h.1, fun c hc => safe_of_mem_safeChars hc, fun hpoint => ?_, fun hrun => ?_, h.2⟩
    · have hhead := List.head?_dropWhile_not (· == '.')
        (squeezeDashes (name.toList.filterMap safeChar?))
      rw [safeChars] at hpoint
      rw [hpoint] at hhead
      cases hhead
    · exact not_run_squeezeDashes _ (hrun.trans (List.dropWhile_suffix _).isInfix)

/-- Characters that are a safe name once each is replaced or dropped are the base name. -/
theorem baseName_of_filterMap {name : String} {chars : List Char}
    (hkept : name.toList.filterMap safeChar? = chars) (h : SafeName chars) :
    baseName name = String.ofList chars := by
  have hchars : safeChars name.toList = chars := by
    rw [safeChars, hkept, squeezeDashes_of_not_run h.noRun]
    cases chars with
    | nil => rfl
    | cons c rest =>
      have hpoint : c ≠ '.' := fun hc => h.noPoint (congrArg some hc)
      exact List.dropWhile_cons_of_neg (by simpa using hpoint)
  have hname : ¬(chars = [] ∨ chars = ['-']) := not_or.mpr ⟨h.nonempty, h.notDash⟩
  simp only [baseName, hchars, if_neg hname]

theorem baseName_of_safeName {name : String} (h : SafeName name.toList) : baseName name = name := by
  have hkept : name.toList.filterMap safeChar? = name.toList := by
    rw [List.filterMap_congr fun c hc => safeChar?_of_safe (h.chars c hc)]
    exact List.filterMap_some
  rw [baseName_of_filterMap hkept h, String.ofList_toList]

/-- Base names are exactly the safe names, and these keep their own. The file of a measurement is
the report directory with one component more, which ends in `.csv` and leads neither here nor up. -/
theorem baseName_safe (name : String) :
    SafeName (baseName name).toList ∧
      (baseName name = name ↔ SafeName name.toList) ∧
      baseName (baseName name) = baseName name ∧
      ((∃ other, baseName other = name) ↔ SafeName name.toList) ∧
      ∀ reporter : CsvReporter, ∃ file,
        reporter.filePath name = Path.join reporter.reportDir (String.ofList file) ∧
        Path.components (reporter.filePath name) =
          Path.components reporter.reportDir ++ [.name file] ∧
        ['.', 'c', 's', 'v'] <:+ file ∧ file ≠ ['.'] ∧ file ≠ ['.', '.'] ∧
        (∀ c ∈ file, Safe c) ∧ '/' ∉ file := by
  refine ⟨safeName_baseName name, ⟨fun h => ?_, baseName_of_safeName⟩,
    baseName_of_safeName (safeName_baseName name), ⟨?_, fun h => ⟨name, baseName_of_safeName h⟩⟩,
    fun reporter => ?_⟩
  · rw [← h]
    exact safeName_baseName name
  · rintro ⟨other, rfl⟩
    exact safeName_baseName other
  · have plain := csvName_plain name
    refine ⟨(csvName name).toList, ?_, Path.components_join reporter.reportDir plain, ?_,
      plain.notHere, plain.notUp, fun c hc => safe_of_mem_csvName hc, plain.noSlash⟩
    · rw [String.ofList_toList]
      rfl
    · rw [csvName_toList]
      exact List.suffix_append _ _

end BenchReport.FileName
