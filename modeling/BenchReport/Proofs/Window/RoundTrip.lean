import BenchReport.Proofs.Json.RoundTrip
import BenchReport.Proofs.Window.Reading
import BenchReport.Window.Json

/-!
Windows are read back from their text: what is written for a length is well-formed and names it to
the whole millisecond.
-/
namespace BenchReport.Window

/-- A number with a unit, in the digits in which it is written. -/
def Component.ofNumber (count : Nat) (u : Scale) : Component where
  digits := Nat.toDigits 10 count
  scale := u
  nonempty := Nat.toDigits_ne_nil
  numeric _ h := Nat.isDigit_of_mem_toDigits (by decide) (by decide) h

theorem Component.count_ofNumber (count : Nat) (u : Scale) : (ofNumber count u).count = count := by
  rw [Component.count, ofNumber, Nat.ofDigitChars_ten_toDigits]

theorem Component.millis_ofNumber (count : Nat) (u : Scale) :
    (ofNumber count u).millis = count * u.millis := by
  rw [millis, count_ofNumber, ofNumber]

/-- What is written for a length: a zero in seconds, or every unit that is used. -/
def written (count : Nat) : List Component :=
  if count = 0 then [.ofNumber 0 .second]
  else (components Scale.all count).map fun part => .ofNumber part.1 part.2

/-- Every unit is used at most once, in its turn. -/
theorem components_sublist (units : List Scale) (count : Nat) :
    ((components units count).map Prod.snd).Sublist units := by
  induction units generalizing count with
  | nil => exact .slnil
  | cons u units ih =>
    rw [components]
    split
    · exact (ih count).cons u
    · split
      · exact (ih count).cons u
      · exact (ih _).cons_cons u

theorem components_zero (units : List Scale) : components units 0 = [] := by
  induction units with
  | nil => rfl
  | cons u units ih =>
    rw [components, Nat.zero_mod, Nat.zero_div, ih]
    simp

/-- Whatever the larger units leave is written in milliseconds, so nothing is lost. -/
theorem total_components {units : List Scale} (h : Scale.milli ∈ units) (count : Nat) :
    total ((components units count).map fun part => .ofNumber part.1 part.2) = count := by
  induction units generalizing count with
  | nil => cases h
  | cons u units ih =>
    have hleft : total ((components units (count % u.millis)).map fun part =>
        .ofNumber part.1 part.2) = count % u.millis := by
      rcases List.mem_cons.mp h with rfl | h
      · rw [Scale.millis, Nat.mod_one, components_zero]
        rfl
      · exact ih h _
    rw [components]
    split
    case isTrue hskip =>
      rcases List.mem_cons.mp h with rfl | h
      · exact absurd hskip (by simp [Scale.exactOnly])
      · exact ih h count
    case isFalse =>
      split
      case isTrue hzero =>
        rw [Nat.mod_eq_of_lt ((Nat.div_eq_zero_iff_lt u.millis_pos).mp hzero)] at hleft
        exact hleft
      case isFalse =>
        rw [List.map_cons, total, Component.millis_ofNumber, hleft, Nat.mul_comm]
        exact Nat.div_add_mod count u.millis

theorem spelling_written (count : Nat) : spelling (written count) = millisText count := by
  rw [written, millisText]
  split
  · rfl
  · rw [spelling, List.flatMap_map]
    rfl

theorem total_written (count : Nat) : total (written count) = count := by
  rw [written]
  split
  case isTrue hzero =>
    rw [hzero]
    rfl
  case isFalse =>
    have hmilli : Scale.milli ∈ Scale.all := by decide
    exact total_components hmilli count

theorem descending_written (count : Nat) : Descending (written count) := by
  rw [written]
  split
  · exact List.pairwise_singleton _ _
  · have hused := allowed_all.descending.sublist (components_sublist Scale.all count)
    rw [Descending, List.pairwise_map]
    exact List.pairwise_map.mp hused

theorem written_ne_nil (count : Nat) : written count ≠ [] := by
  intro hnil
  have htotal := total_written count
  rw [hnil] at htotal
  have hzero : count = 0 := htotal.symm
  rw [written, if_pos hzero] at hnil
  cases hnil

/-- What is written for a length is well-formed and names the length. -/
theorem denotes_millisText (count : Nat) : Denotes (millisText count) count := by
  have h := Denotes.components (written_ne_nil count) (descending_written count)
  rwa [spelling_written, total_written] at h

/-- The text of a window is read as the window without what is beyond whole milliseconds. -/
theorem parse_text (w : Window) : parse w.text = .ok (ofMillis w.millis) := by
  have h : Denotes w.text.toList w.millis := by
    rw [text, String.toList_ofList]
    exact denotes_millisText w.millis
  rw [parse_of_denotes h, if_pos w.millis_le]

theorem decode_tree (w : Window) : decoder w.toJson.tree = .ok (ofMillis w.millis) := by
  have hstring : Json.Decoder.string w.toJson.tree = .ok w.text := rfl
  simp only [decoder, hstring, parse_text]

theorem text_eq_iff {v w : Window} : v.text = w.text ↔ v.millis = w.millis := by
  constructor
  · intro h
    have hparse := parse_text v
    rw [h, parse_text w, Except.ok.injEq] at hparse
    have hmillis := congrArg Window.millis hparse
    rw [millis_ofMillis, millis_ofMillis, Nat.min_eq_left v.millis_le,
      Nat.min_eq_left w.millis_le] at hmillis
    exact hmillis.symm
  · intro h
    rw [text, text, h]

theorem millis_ofSeconds (seconds : UInt64) (nanos : Fin (Nat.pow 10 9)) :
    (ofSeconds seconds nanos).millis =
      min (seconds.toNat * 1000 + nanos / Nat.pow 10 6) (Nat.pow 2 64 - 1) := by
  simp only [millis, ofSeconds, maxMillis, Nat.pow_eq]
  omega

/-- Of any length the text is read back to the whole millisecond, and a window of whole
milliseconds is read back itself, also from JSON. So texts differ where milliseconds do. -/
theorem parse_text_ofSeconds (seconds : UInt64) (nanos : Fin (Nat.pow 10 9)) :
    parse (ofSeconds seconds nanos).text =
        .ok (ofMillis (min (seconds.toNat * 1000 + nanos / Nat.pow 10 6) (Nat.pow 2 64 - 1))) ∧
      (∀ count : UInt64,
        let w := ofMillis count.toNat
        parse w.text = .ok w ∧ Json.decodeText decoder w.toJson.compactText = .ok w ∧
          Json.decodeText decoder w.toJson.prettyText = .ok w) ∧
      ∀ v w : Window, v.text = w.text ↔ v.millis = w.millis := by
  refine ⟨?_, fun count => ?_, fun v w => text_eq_iff⟩
  · rw [parse_text, millis_ofSeconds]
  · have hcount : (ofMillis count.toNat).millis = count.toNat := by
      have hlt := count.toNat_lt
      rw [millis_ofMillis, maxMillis, Nat.pow_eq]
      omega
    refine ⟨?_, ?_, ?_⟩
    · rw [parse_text, hcount]
    · rw [Json.Value.decodeText_compactText, decode_tree, hcount]
    · rw [Json.Value.decodeText_prettyText, decode_tree, hcount]

end BenchReport.Window
