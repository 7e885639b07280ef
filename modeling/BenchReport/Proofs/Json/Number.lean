import BenchReport.Json.Printer
import BenchReport.Json.Reader
import BenchReport.Proofs.Number.Shortest

/-!
Numbers in JSON. What follows a number does not matter as long as it cannot continue it, and the
text of a finite double is read as that double.
-/
namespace BenchReport.Json

/-- A text that does not begin with a digit. -/
def DigitFree (text : List Char) : Prop := ∀ c ∈ text.head?, c.isDigit = false

/-- A text that cannot continue a number. -/
def NumberEnd (text : List Char) : Prop :=
  ∀ c ∈ text.head?, c.isDigit = false ∧ c ≠ '.' ∧ c ≠ 'e' ∧ c ≠ 'E'

theorem NumberEnd.digitFree {text : List Char} (h : NumberEnd text) : DigitFree text :=
  fun c hc => (h c hc).1

theorem NumberEnd.pointFree {text : List Char} (h : NumberEnd text) : ∀ c ∈ text.head?, c ≠ '.' :=
  fun c hc => (h c hc).2.1

@[simp] theorem numberEnd_nil : NumberEnd [] := fun _ hc => nomatch hc

theorem numberEnd_cons {c : Char} {text : List Char}
    (h : c.isDigit = false ∧ c ≠ '.' ∧ c ≠ 'e' ∧ c ≠ 'E') : NumberEnd (c :: text) := by
  intro d hd
  obtain rfl : c = d := by simpa using hd
  exact h

theorem digitFree_cons {c : Char} {text : List Char} (h : c.isDigit = false) :
    DigitFree (c :: text) := by
  intro d hd
  obtain rfl : c = d := by simpa using hd
  exact h

theorem map_eq_ok {ε α β : Type} {x : Except ε α} {f : α → β} {b : β} :
    x.map f = .ok b ↔ ∃ a, x = .ok a ∧ f a = b := by
  cases x <;> simp [Except.map]

/-- Digits run on to the same place, whatever stands after the text. -/
theorem digits_append {rest : List Char} (h : DigitFree rest) (text : List Char) :
    (text ++ rest).takeWhile Char.isDigit = text.takeWhile Char.isDigit ∧
      (text ++ rest).dropWhile Char.isDigit = text.dropWhile Char.isDigit ++ rest := by
  induction text with
  | nil =>
    cases rest with
    | nil => exact ⟨rfl, rfl⟩
    | cons c rest => simp [h c rfl]
  | cons c text ih =>
    by_cases hc : c.isDigit
    · simpa [hc] using ih
    · simp [hc]

theorem readWhole_append {text rest digits more : List Char} (hrest : DigitFree rest)
    (h : readWhole text = .ok (digits, more)) :
    readWhole (text ++ rest) = .ok (digits, more ++ rest) := by
  cases text with
  | nil => cases h
  | cons c text =>
    obtain ⟨htake, hdrop⟩ := digits_append hrest text
    by_cases hzero : c = '0'
    · subst hzero
      simp only [readWhole, List.cons_append, htake] at h ⊢
      split at h
      case isTrue hempty =>
        cases h
        rw [if_pos hempty]
      case isFalse => cases h
    · simp only [readWhole, List.cons_append, htake, hdrop] at h ⊢
      split at h
      case isTrue hdigit =>
        cases h
        rw [if_pos hdigit]
      case isFalse => cases h

theorem readDigits_append {text rest digits more : List Char} (hrest : DigitFree rest)
    (h : readDigits text = .ok (digits, more)) :
    readDigits (text ++ rest) = .ok (digits, more ++ rest) := by
  obtain ⟨htake, hdrop⟩ := digits_append hrest text
  simp only [readDigits, htake, hdrop] at h ⊢
  split at h
  case isTrue => cases h
  case isFalse hne =>
    cases h
    rw [if_neg hne]

theorem readFraction_cons {c : Char} (hpoint : c ≠ '.') (text : List Char) :
    readFraction (c :: text) = .ok (none, c :: text) := by simp [readFraction, hpoint]

theorem readFraction_append {text rest more : List Char} {fraction : Option (List Char)}
    (hdigits : DigitFree rest) (hrest : ∀ c ∈ rest.head?, c ≠ '.')
    (h : readFraction text = .ok (fraction, more)) :
    readFraction (text ++ rest) = .ok (fraction, more ++ rest) := by
  cases text with
  | nil =>
    cases h
    cases rest with
    | nil => rfl
    | cons c rest => exact readFraction_cons (hrest c rfl) rest
  | cons c text =>
    by_cases hpoint : c = '.'
    · subst hpoint
      simp only [readFraction, List.cons_append] at h ⊢
      obtain ⟨found, hread, hfound⟩ := map_eq_ok.mp h
      cases hfound
      exact map_eq_ok.mpr ⟨_, readDigits_append hdigits hread, rfl⟩
    · rw [readFraction_cons hpoint] at h
      cases h
      exact readFraction_cons hpoint _

/-- The sign of an exponent and the text after it. -/
def signOf : List Char → Bool × List Char
  | '+' :: digits => (false, digits)
  | '-' :: digits => (true, digits)
  | digits => (false, digits)

theorem signOf_append {text rest : List Char} (h : text ≠ []) :
    signOf (text ++ rest) = ((signOf text).1, (signOf text).2 ++ rest) := by
  cases text with
  | nil => exact absurd rfl h
  | cons c text =>
    by_cases hplus : c = '+'
    · subst hplus; rfl
    · by_cases hminus : c = '-'
      · subst hminus; rfl
      · simp [signOf, hplus, hminus]

theorem readExponent_cons (letter : Char) (text : List Char) :
    readExponent (letter :: text) =
      if letter = 'e' || letter = 'E' then
        (readDigits (signOf text).2).map fun (digits, rest) =>
          (some (if (signOf text).1 then -(Numeral.digitsValue digits : Int)
            else Numeral.digitsValue digits), rest)
      else .ok (none, letter :: text) := by
  unfold readExponent signOf
  rfl

theorem readExponent_append {text rest more : List Char} {exponent : Option Int}
    (hrest : NumberEnd rest) (h : readExponent text = .ok (exponent, more)) :
    readExponent (text ++ rest) = .ok (exponent, more ++ rest) := by
  cases text with
  | nil =>
    cases h
    cases rest with
    | nil => rfl
    | cons c rest =>
      obtain ⟨-, -, he, hE⟩ := hrest c rfl
      rw [List.nil_append, readExponent_cons, if_neg (by simp [he, hE])]
  | cons letter text =>
    rw [List.cons_append]
    rw [readExponent_cons] at h ⊢
    split at h
    case isTrue hletter =>
      have hne : text ≠ [] := by
        rintro rfl
        cases h
      rw [if_pos hletter, signOf_append hne]
      obtain ⟨found, hread, hfound⟩ := map_eq_ok.mp h
      cases hfound
      exact map_eq_ok.mpr ⟨_, readDigits_append hrest.digitFree hread, rfl⟩
    case isFalse hletter =>
      cases h
      rw [if_neg hletter]
      rfl

/-- A number is its three parts, read one after another. -/
theorem readNumber_ok {negative : Bool} {text rest : List Char} {tree : Tree} :
    readNumber negative text = .ok (tree, rest) ↔
      ∃ whole afterWhole fraction afterFraction exponent,
        readWhole text = .ok (whole, afterWhole) ∧
        readFraction afterWhole = .ok (fraction, afterFraction) ∧
        readExponent afterFraction = .ok (exponent, rest) ∧
        numberNode negative whole fraction exponent = tree := by
  constructor
  · intro h
    unfold readNumber at h
    split at h
    case h_1 => cases h
    case h_2 hwhole =>
      split at h
      case h_1 => cases h
      case h_2 hfraction =>
        split at h
        case h_1 => cases h
        case h_2 hexponent =>
          cases h
          exact ⟨_, _, _, _, _, hwhole, hfraction, hexponent, rfl⟩
  · rintro ⟨whole, _, fraction, _, exponent, hwhole, hfraction, hexponent, rfl⟩
    simp only [readNumber, hwhole, hfraction, hexponent]

/-- A number is read the same before any text that cannot continue it. -/
theorem readNumber_append {negative : Bool} {text rest more : List Char} {tree : Tree}
    (hrest : NumberEnd rest) (h : readNumber negative text = .ok (tree, more)) :
    readNumber negative (text ++ rest) = .ok (tree, more ++ rest) := by
  obtain ⟨whole, _, fraction, _, exponent, hwhole, hfraction, hexponent, htree⟩ :=
    readNumber_ok.mp h
  exact readNumber_ok.mpr ⟨whole, _, fraction, _, exponent,
    readWhole_append hrest.digitFree hwhole,
    readFraction_append hrest.digitFree hrest.pointFree hfraction,
    readExponent_append hrest hexponent, htree⟩

/-- Zeros before the digits do not count. -/
theorem value_zeros_append (negative : Bool) (k : Nat) (digits : List Char) (exponent : Int) :
    (Numeral.mk negative (List.replicate k '0' ++ digits) exponent).value =
      (Numeral.mk negative digits exponent).value := by
  simp only [Numeral.value, Numeral.digitsValue, Nat.ofDigitChars_append,
    Nat.ofDigitChars_replicate_zero, Nat.mul_zero]

/-- Zeros after the digits are powers of ten. -/
theorem value_append_zeros (negative : Bool) (k : Nat) (digits : List Char) (exponent : Int) :
    (Numeral.mk negative (digits ++ List.replicate k '0') exponent).value =
      (Numeral.mk negative digits (exponent + k)).value := by
  simp only [Numeral.value, Numeral.digitsValue, Nat.ofDigitChars_append,
    Nat.ofDigitChars_replicate_zero, Nat.mul_comm (10 ^ k), Binary64.ofDecimal_mul_pow]

theorem numberNode_real {negative : Bool} {whole : List Char} {fraction : Option (List Char)}
    {exponent : Option Int} {x : Binary64} (hreal : fraction.isSome || exponent.isSome)
    (hvalue : (Numeral.mk negative (whole ++ fraction.getD [])
      (exponent.getD 0 - (fraction.getD []).length)).value = x) (hfinite : x.isFinite) :
    numberNode negative whole fraction exponent = .real x := by
  subst hvalue
  simp only [numberNode, hfinite, hreal, if_true]

theorem readDigits_all {text : List Char} (hne : text ≠ []) (h : ∀ c ∈ text, c.isDigit = true) :
    readDigits text = .ok (text, []) := by
  have htake : text.takeWhile Char.isDigit = text := List.takeWhile_eq_self_iff.mpr h
  have hdrop : text.dropWhile Char.isDigit = [] := List.dropWhile_eq_nil_iff.mpr h
  simp [readDigits, htake, hdrop, hne]

theorem readWhole_leads {c : Char} {text : List Char} (hc : c ≠ '0')
    (h : ∀ d ∈ c :: text, d.isDigit = true) : readWhole (c :: text) = .ok (c :: text, []) := by
  obtain ⟨hdigit, hall⟩ := List.forall_mem_cons.mp h
  have htake : text.takeWhile Char.isDigit = text := List.takeWhile_eq_self_iff.mpr hall
  have hdrop : text.dropWhile Char.isDigit = [] := List.dropWhile_eq_nil_iff.mpr hall
  simp [readWhole, hdigit, htake, hdrop]

/-- A number with a point and no exponent. -/
theorem readNumber_point (negative : Bool) {whole fraction : List Char}
    (hwhole : readWhole whole = .ok (whole, [])) (hne : fraction ≠ [])
    (hfraction : ∀ c ∈ fraction, c.isDigit = true) :
    readNumber negative (whole ++ '.' :: fraction) =
      .ok (numberNode negative whole (some fraction) none, []) := by
  have hpoint : DigitFree ('.' :: fraction) := digitFree_cons (by decide)
  have hread := readWhole_append hpoint hwhole
  simp only [readNumber, hread, readFraction, List.nil_append, readDigits_all hne hfraction,
    Except.map, readExponent]

theorem isDigit_of_mem_zeros (k : Nat) : ∀ c ∈ List.replicate k '0', c.isDigit = true := by
  intro c hc
  rw [List.eq_of_mem_replicate hc]
  decide

theorem readExponent_text (leading : Int) :
    readExponent ('e' :: (if leading < 0 then '-' else '+') :: Nat.toDigits 10 leading.natAbs) =
      .ok (some leading, []) := by
  have hdigits := readDigits_all (Nat.toDigits_ne_nil (n := leading.natAbs) (b := 10))
    fun c hc => Nat.isDigit_of_mem_toDigits (by decide) (by decide) hc
  have hvalue : Numeral.digitsValue (Nat.toDigits 10 leading.natAbs) = leading.natAbs :=
    Nat.ofDigitChars_ten_toDigits
  rw [readExponent_cons, if_pos (by decide)]
  by_cases h : leading < 0
  · have hsign : -(leading.natAbs : Int) = leading := by omega
    simp only [h, signOf, hdigits, hvalue, Except.map, hsign, if_true]
  · have hsign : (leading.natAbs : Int) = leading := by omega
    simp only [h, signOf, hdigits, hvalue, Except.map, hsign, if_false, Bool.false_eq_true]

/-- A decimal below one: zeros stand between the point and the digits. -/
theorem readNumber_belowOne {d : Decimal} (h : d.WellFormed) (hneg : d.leading < 0)
    (negative : Bool) (hfinite : (d.numeral negative).value.isFinite) :
    readNumber negative ('0' :: '.' :: (List.replicate (-d.leading - 1).toNat '0' ++ d.digits)) =
      .ok (.real (d.numeral negative).value, []) := by
  let zeros := List.replicate (-d.leading - 1).toNat '0'
  have hvalue : (Numeral.mk negative (['0'] ++ (zeros ++ d.digits))
      (0 - (zeros ++ d.digits).length)).value = (d.numeral negative).value := by
    have hexponent : (0 - (zeros ++ d.digits).length : Int) =
        d.leading + 1 - d.digits.length := by
      simp only [zeros, List.length_append, List.length_replicate]
      omega
    rw [hexponent, ← List.append_assoc,
      show ['0'] ++ zeros = List.replicate ((-d.leading - 1).toNat + 1) '0' from rfl,
      value_zeros_append]
    rfl
  have hdigits : ∀ c ∈ zeros ++ d.digits, c.isDigit = true :=
    List.forall_mem_append.mpr ⟨isDigit_of_mem_zeros _, h.digit⟩
  have hne : zeros ++ d.digits ≠ [] := by
    obtain ⟨c, rest, heq, -⟩ := h.leads
    simp [heq]
  have hwhole : readWhole ['0'] = .ok (['0'], []) := rfl
  have hread := readNumber_point negative hwhole hne hdigits
  rw [numberNode_real rfl hvalue hfinite] at hread
  exact hread

/-- A whole decimal: zeros fill the digits up to the point, and one more follows it. -/
theorem readNumber_filled {d : Decimal} (h : d.WellFormed) {k : Nat}
    (hk : d.leading + 1 = d.digits.length + k) (negative : Bool)
    (hfinite : (d.numeral negative).value.isFinite) :
    readNumber negative ((d.digits ++ List.replicate k '0') ++ ['.', '0']) =
      .ok (.real (d.numeral negative).value, []) := by
  obtain ⟨c, rest, heq, hc⟩ := h.leads
  have hdigits : ∀ x ∈ d.digits ++ List.replicate k '0', x.isDigit = true :=
    List.forall_mem_append.mpr ⟨h.digit, isDigit_of_mem_zeros k⟩
  have hwhole : readWhole (d.digits ++ List.replicate k '0') =
      .ok (d.digits ++ List.replicate k '0', []) := by
    rw [heq, List.cons_append] at hdigits ⊢
    exact readWhole_leads hc hdigits
  have hvalue : (Numeral.mk negative ((d.digits ++ List.replicate k '0') ++ ['0'])
      (0 - 1)).value = (d.numeral negative).value := by
    have hexponent : (0 - 1 + (k + 1 : Nat) : Int) = d.leading + 1 - d.digits.length := by omega
    rw [List.append_assoc, ← List.replicate_succ', value_append_zeros, hexponent]
    rfl
  have hread := readNumber_point negative hwhole (List.cons_ne_nil '0' [])
    (isDigit_of_mem_zeros 1)
  rw [numberNode_real rfl hvalue hfinite] at hread
  exact hread

/-- A decimal with a point among its digits. -/
theorem readNumber_split {d : Decimal} (h : d.WellFormed) {n : Nat} (hn : d.leading = n)
    (hlong : n + 1 < d.digits.length) (negative : Bool)
    (hfinite : (d.numeral negative).value.isFinite) :
    readNumber negative (d.digits.take (n + 1) ++ '.' :: d.digits.drop (n + 1)) =
      .ok (.real (d.numeral negative).value, []) := by
  obtain ⟨c, rest, heq, hc⟩ := h.leads
  have hwhole : readWhole (d.digits.take (n + 1)) = .ok (d.digits.take (n + 1), []) := by
    have htake : d.digits.take (n + 1) = c :: rest.take n := by rw [heq, List.take_succ_cons]
    have hdigits : ∀ x ∈ d.digits.take (n + 1), x.isDigit = true :=
      fun x hx => h.digit x (List.mem_of_mem_take hx)
    rw [htake] at hdigits ⊢
    exact readWhole_leads hc hdigits
  have hne : d.digits.drop (n + 1) ≠ [] := by
    rw [ne_eq, List.drop_eq_nil_iff]
    omega
  have hvalue : (Numeral.mk negative (d.digits.take (n + 1) ++ d.digits.drop (n + 1))
      (0 - (d.digits.drop (n + 1)).length)).value = (d.numeral negative).value := by
    have hexponent : (0 - (d.digits.drop (n + 1)).length : Int) =
        d.leading + 1 - d.digits.length := by
      rw [List.length_drop]
      omega
    rw [List.take_append_drop, hexponent]
    rfl
  have hread := readNumber_point negative hwhole hne
    fun x hx => h.digit x (List.mem_of_mem_drop hx)
  rw [numberNode_real rfl hvalue hfinite] at hread
  exact hread

/-- A decimal from one on: the digits are filled up to the point, and one zero may follow it. -/
theorem readNumber_fromOne {d : Decimal} (h : d.WellFormed) {n : Nat} (hn : d.leading = n)
    (negative : Bool) (hfinite : (d.numeral negative).value.isFinite) :
    let padded := d.digits ++ List.replicate (n + 1 - d.digits.length) '0'
    readNumber negative (padded.take (n + 1) ++
        '.' :: (if (padded.drop (n + 1)).isEmpty then ['0'] else padded.drop (n + 1))) =
      .ok (.real (d.numeral negative).value, []) := by
  intro padded
  by_cases hlong : n + 1 < d.digits.length
  · have hpadded : padded = d.digits := by
      have hzero : n + 1 - d.digits.length = 0 := by omega
      simp [padded, hzero]
    have hdrop : ¬(d.digits.drop (n + 1)).isEmpty := by
      rw [List.isEmpty_iff, List.drop_eq_nil_iff]
      omega
    rw [hpadded, if_neg hdrop]
    exact readNumber_split h hn hlong negative hfinite
  · have hlength : padded.length ≤ n + 1 := by
      simp only [padded, List.length_append, List.length_replicate]
      omega
    have hk : d.leading + 1 = d.digits.length + (n + 1 - d.digits.length : Nat) := by omega
    rw [List.take_of_length_le hlength, List.drop_of_length_le hlength]
    exact readNumber_filled h hk negative hfinite

/-- A decimal with an exponent: one digit stands before the point, if there is a point. -/
theorem readNumber_withExponent {d : Decimal} (h : d.WellFormed) (negative : Bool)
    (hfinite : (d.numeral negative).value.isFinite) :
    let mantissa := match d.digits with
      | first :: second :: rest => first :: '.' :: second :: rest
      | digits => digits
    readNumber negative (mantissa ++
        'e' :: (if d.leading < 0 then '-' else '+') :: Nat.toDigits 10 d.leading.natAbs) =
      .ok (.real (d.numeral negative).value, []) := by
  obtain ⟨c, rest, heq, hc⟩ := h.leads
  have hdigit := h.digit
  rw [heq] at hdigit
  have hwhole : readWhole [c] = .ok ([c], []) :=
    readWhole_leads hc fun x hx => hdigit x (List.mem_cons.mpr (.inl (List.mem_singleton.mp hx)))
  have hexponent := readExponent_text d.leading
  generalize (if d.leading < 0 then '-' else '+') :: Nat.toDigits 10 d.leading.natAbs = tail
    at hexponent ⊢
  have hend : DigitFree ('e' :: tail) := digitFree_cons (by decide)
  have hvalue : (Numeral.mk negative ([c] ++ rest) (d.leading - rest.length)).value =
      (d.numeral negative).value := by
    have hlast : d.leading - rest.length = d.leading + 1 - d.digits.length := by
      simp only [heq, List.length_cons]
      omega
    rw [hlast, List.singleton_append, ← heq]
    rfl
  rw [heq]
  cases rest with
  | nil =>
    have hread := readWhole_append hend hwhole
    rw [List.nil_append] at hread
    simp only [readNumber, hread, readFraction_cons (show 'e' ≠ '.' by decide), hexponent]
    rw [numberNode_real rfl hvalue hfinite]
  | cons second rest =>
    have hrest : ∀ x ∈ second :: rest, x.isDigit = true :=
      fun x hx => hdigit x (List.mem_cons_of_mem _ hx)
    have hpoint : DigitFree ('.' :: (second :: rest ++ 'e' :: tail)) :=
      digitFree_cons (by decide)
    have hread := readWhole_append hpoint hwhole
    have hfraction := readDigits_append hend (readDigits_all (List.cons_ne_nil second rest) hrest)
    simp only [List.cons_append, List.nil_append] at hread hfraction ⊢
    simp only [readNumber, hread, readFraction, hfraction, Except.map, hexponent]
    rw [numberNode_real rfl hvalue hfinite]

/-- The text of a decimal is read as its numeral's value. -/
theorem readNumber_decimalText {d : Decimal} (h : d.WellFormed) (negative : Bool)
    (hfinite : (d.numeral negative).value.isFinite) :
    readNumber negative (decimalText d) = .ok (.real (d.numeral negative).value, []) := by
  unfold decimalText
  split
  case isTrue =>
    split
    case isTrue hneg => exact readNumber_belowOne h hneg negative hfinite
    case isFalse hneg =>
      obtain ⟨n, hn⟩ := Int.eq_ofNat_of_zero_le (Int.not_lt.mp hneg)
      have hread := readNumber_fromOne h hn negative hfinite
      simp only [hn, Int.toNat_natCast]
      exact hread
  case isFalse => exact readNumber_withExponent h negative hfinite

/-- The text of a finite double is read as that double. -/
theorem readNumber_numberText (negative : Bool) (rank : Fin Binary64.rankCount) :
    ∃ text, numberText (.finite negative rank) = (if negative then '-' :: text else text) ∧
      readNumber negative text = .ok (.real (.finite negative rank), []) := by
  refine ⟨_, rfl, ?_⟩
  by_cases hzero : rank.val = 0
  · rw [if_pos hzero]
    obtain rfl : rank = ⟨0, by decide⟩ := Fin.ext hzero
    have hvalue : (Numeral.mk negative (['0'] ++ ['0']) (0 - 1)).value =
        .finite negative ⟨0, by decide⟩ := by
      cases negative <;> rfl
    have hwhole : readWhole ['0'] = .ok (['0'], []) := rfl
    have hread := readNumber_point negative hwhole (List.cons_ne_nil '0' [])
      (isDigit_of_mem_zeros 1)
    rw [numberNode_real rfl hvalue rfl] at hread
    exact hread
  · rw [if_neg hzero]
    obtain ⟨hwell, hback⟩ := Decimal.shortest_spec (Nat.pos_of_ne_zero hzero) rank.isLt
    have hvalue : ((Decimal.shortest rank).numeral negative).value = .finite negative rank := by
      rw [hback, Binary64.ofRank, dif_pos rank.isLt]
    rw [← hvalue]
    exact readNumber_decimalText hwell negative (by rw [hvalue]; rfl)

end BenchReport.Json
