import BenchReport.FileName
import BenchReport.Proofs.File.Path

/-! The file name of every measurement is one plain component of a path. -/
namespace BenchReport.FileName

/-- The characters of file names. -/
def Safe (c : Char) : Prop := c.isAlphanum = true ∨ c = '-' ∨ c = '.'

instance : DecidablePred Safe := fun c =>
  inferInstanceAs (Decidable (c.isAlphanum = true ∨ c = '-' ∨ c = '.'))

theorem safe_of_safeChar? {c d : Char} (h : safeChar? c = some d) : Safe d := by
  unfold safeChar? at h
  split at h
  · cases h
    exact .inr (.inl rfl)
  · split at h
    case isTrue kept =>
      cases h
      exact kept
    case isFalse => cases h

theorem mem_squeezeDashes {c : Char} {text : List Char} (h : c ∈ squeezeDashes text) :
    c ∈ text := by
  induction text with
  | nil => exact h
  | cons d rest ih =>
    rw [squeezeDashes] at h
    split at h
    · exact List.mem_cons_of_mem _ (ih h)
    · rcases List.mem_cons.mp h with rfl | h
      · exact List.mem_cons_self
      · exact List.mem_cons_of_mem _ (ih h)

theorem safe_of_mem_safeChars {c : Char} {name : List Char} (h : c ∈ safeChars name) :
    Safe c := by
  have hsqueezed := (List.dropWhile_sublist _).mem h
  obtain ⟨d, -, hd⟩ := List.mem_filterMap.mp (mem_squeezeDashes hsqueezed)
  exact safe_of_safeChar? hd

theorem safe_of_mem_fallback {c : Char} (h : c ∈ fallback.toList) : Safe c := by
  have hletters : fallback.toList.all Char.isAlphanum = true := by decide
  exact .inl (List.all_eq_true.mp hletters c h)

theorem safe_of_mem_baseName {c : Char} {name : String} (h : c ∈ (baseName name).toList) :
    Safe c := by
  unfold baseName at h
  dsimp only at h
  split at h
  · exact safe_of_mem_fallback h
  · rw [String.toList_ofList] at h
    exact safe_of_mem_safeChars h

/-- The name of a measurement's CSV file. -/
def csvName (name : String) : String := baseName name ++ ".csv"

theorem csvName_toList (name : String) :
    (csvName name).toList = (baseName name).toList ++ ['.', 'c', 's', 'v'] :=
  String.toList_append

theorem safe_of_mem_csvName {c : Char} {name : String} (h : c ∈ (csvName name).toList) :
    Safe c := by
  rw [csvName_toList] at h
  rcases List.mem_append.mp h with h | h
  · exact safe_of_mem_baseName h
  · rcases List.mem_cons.mp h with rfl | h
    · exact .inr (.inr rfl)
    · have hletters : ['c', 's', 'v'].all Char.isAlphanum = true := by decide
      exact .inl (List.all_eq_true.mp hletters c h)

theorem csvName_plain (name : String) : Path.Plain (csvName name).toList := by
  have hlength : 4 ≤ (csvName name).toList.length := by
    rw [csvName_toList, List.length_append]
    exact Nat.le_add_left 4 _
  have hslash : ¬Safe '/' := by decide
  have hzero : ¬Safe '\x00' := by decide
  refine ⟨?_, fun h => hslash (safe_of_mem_csvName h), fun h => hzero (safe_of_mem_csvName h),
    ?_, ?_⟩
  all_goals
    intro h
    rw [h] at hlength
    exact absurd hlength (by decide)

/-- Measurements share a file exactly if they share a base name. -/
theorem csvName_inj {a b : String} : csvName a = csvName b ↔ baseName a = baseName b := by
  constructor
  · intro h
    have hchars := congrArg String.toList h
    rw [csvName_toList, csvName_toList] at hchars
    exact String.ext (List.append_cancel_right hchars)
  · intro h
    rw [csvName, csvName, h]

end BenchReport.FileName
