import BenchReport.Proofs.Text.ByteOrder

/-!
Cutting a text at a number of bytes. Bytes of a class of ASCII characters are counted as such
characters are, so a cut behind them never falls into a character.
-/
namespace BenchReport.Text

/-- A text before and behind so many bytes, unless these end inside a character or are too many. -/
def cut? : Nat → List Char → Option (List Char × List Char)
  | 0, text => some ([], text)
  | _ + 1, [] => none
  | bytes + 1, c :: rest =>
    if bytes + 1 < c.utf8Size then none
    else (cut? (bytes + 1 - c.utf8Size) rest).map fun (before, after) => (c :: before, after)

/-- How many bytes of a class a text begins with. -/
def leadingBytes (p : UInt8 → Bool) (text : List Char) : Nat :=
  ((text.flatMap String.utf8EncodeChar).takeWhile p).length

def isDigitByte (byte : UInt8) : Bool := 48 ≤ byte && byte ≤ 57

def isLetterByte (byte : UInt8) : Bool := 65 ≤ byte && byte ≤ 90 || 97 ≤ byte && byte ≤ 122

/-- A class of bytes that are the characters of a class, all of them ASCII. -/
structure AsciiClass (p : UInt8 → Bool) (q : Char → Bool) : Prop where
  low (c : Char) (h : c.toNat < 128) : p (UInt8.ofNat c.toNat) = q c
  highByte (byte : UInt8) (h : 128 ≤ byte.toNat) : p byte = false
  highChar (c : Char) (h : 128 ≤ c.toNat) : q c = false

theorem isDigit_iff {c : Char} : c.isDigit = true ↔ 48 ≤ c.toNat ∧ c.toNat ≤ 57 := by
  simp only [Char.isDigit, Bool.and_eq_true, decide_eq_true_eq, UInt32.le_iff_toNat_le]
  rfl

theorem asciiClass_digit : AsciiClass isDigitByte Char.isDigit := by
  refine ⟨fun c h => ?_, fun byte h => ?_, fun c h => ?_⟩
  · have hmod : c.toNat % 256 = c.toNat := Nat.mod_eq_of_lt (by omega)
    rw [Bool.eq_iff_iff, isDigit_iff]
    simp [isDigitByte, UInt8.le_iff_toNat_le, hmod]
  · simp only [isDigitByte, Bool.and_eq_false_iff, decide_eq_false_iff_not,
      UInt8.le_iff_toNat_le]
    exact .inr fun hle => absurd (Nat.le_trans h hle) (by decide)
  · rw [Bool.eq_false_iff, ne_eq, isDigit_iff]
    omega

theorem isAlpha_iff {c : Char} :
    c.isAlpha = true ↔ 65 ≤ c.toNat ∧ c.toNat ≤ 90 ∨ 97 ≤ c.toNat ∧ c.toNat ≤ 122 := by
  have h : c.isAlpha = (decide ('A'.val ≤ c.val ∧ c.val ≤ 'Z'.val) ||
      decide ('a'.val ≤ c.val) && decide (c.val ≤ 'z'.val)) := rfl
  simp only [h, Bool.or_eq_true, Bool.and_eq_true, decide_eq_true_eq, UInt32.le_iff_toNat_le]
  rfl

theorem asciiClass_letter : AsciiClass isLetterByte Char.isAlpha := by
  refine ⟨fun c h => ?_, fun byte h => ?_, fun c h => ?_⟩
  · have hmod : c.toNat % 256 = c.toNat := Nat.mod_eq_of_lt (by omega)
    rw [Bool.eq_iff_iff, isAlpha_iff]
    simp [isLetterByte, UInt8.le_iff_toNat_le, hmod]
  · simp only [isLetterByte, Bool.or_eq_false_iff, Bool.and_eq_false_iff,
      decide_eq_false_iff_not, UInt8.le_iff_toNat_le]
    exact ⟨.inr fun hle => absurd (Nat.le_trans h hle) (by decide),
      .inr fun hle => absurd (Nat.le_trans h hle) (by decide)⟩
  · rw [Bool.eq_false_iff, ne_eq, isAlpha_iff]
    omega

theorem encode_low {c : Char} (h : c.toNat < 128) :
    String.utf8EncodeChar c = [UInt8.ofNat c.toNat] ∧ c.utf8Size = 1 := by
  have hval : c.val.toNat = c.toNat := rfl
  have hle : c.toNat ≤ 127 := by omega
  constructor
  · simp only [String.utf8EncodeChar, hval, if_pos hle]
  · exact Char.utf8Size_eq_one_iff.mpr (UInt32.le_iff_toNat_le.mpr hle)

/-- A character beyond ASCII begins with a byte beyond ASCII. -/
theorem encode_high {c : Char} (h : 128 ≤ c.toNat) :
    ∃ byte more, String.utf8EncodeChar c = byte :: more ∧ 128 ≤ byte.toNat := by
  have hval : c.val.toNat = c.toNat := rfl
  unfold String.utf8EncodeChar
  simp only [hval]
  generalize c.toNat = n at h
  repeat' split
  · omega
  all_goals
    refine ⟨_, _, rfl, ?_⟩
    rw [UInt8.toNat_ofNat']
    omega

variable {p : UInt8 → Bool} {q : Char → Bool}

theorem leadingBytes_cons (same : AsciiClass p q) (c : Char) (rest : List Char) :
    leadingBytes p (c :: rest) = if q c then leadingBytes p rest + 1 else 0 := by
  unfold leadingBytes
  rw [List.flatMap_cons]
  rcases Nat.lt_or_ge c.toNat 128 with hlow | hhigh
  · rw [(encode_low hlow).1, List.singleton_append, List.takeWhile_cons, same.low c hlow]
    split
    · rfl
    · rfl
  · obtain ⟨byte, more, hbytes, hbyte⟩ := encode_high hhigh
    rw [hbytes, List.cons_append, List.takeWhile_cons, same.highByte byte hbyte,
      same.highChar c hhigh]
    rfl

/-- A cut behind the bytes of a class of ASCII characters is a cut behind these characters. -/
theorem cut?_leadingBytes (same : AsciiClass p q) (text : List Char) :
    cut? (leadingBytes p text) text = some (text.takeWhile q, text.dropWhile q) := by
  induction text with
  | nil => rfl
  | cons c rest ih =>
    rw [leadingBytes_cons same]
    by_cases hc : q c = true
    · have hlow : c.toNat < 128 := by
        rcases Nat.lt_or_ge c.toNat 128 with hlow | hhigh
        · exact hlow
        · rw [same.highChar c hhigh] at hc
          cases hc
      have hsize := (encode_low hlow).2
      have hfits : ¬leadingBytes p rest + 1 < c.utf8Size := by omega
      rw [if_pos hc, cut?, if_neg hfits, hsize, Nat.add_sub_cancel, ih,
        List.takeWhile_cons_of_pos hc, List.dropWhile_cons_of_pos hc]
      rfl
    · rw [if_neg hc, cut?, List.takeWhile_cons_of_neg hc, List.dropWhile_cons_of_neg hc]

end BenchReport.Text
