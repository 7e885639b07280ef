import BenchReport.Series

/-! The order of texts by code points is the order of their bytes in UTF-8. -/
namespace BenchReport.Text

/-- The bytes of a text in UTF-8. -/
def bytes (text : String) : List UInt8 := text.toByteArray.data.toList

/-- The characters of a literal are those it is written with; to decode its bytes takes long. -/
theorem toList_literal {literal : String} {chars : List Char} (h : literal = String.ofList chars) :
    literal.toList = chars := by
  rw [h, String.toList_ofList]

theorem bytes_eq (text : String) : bytes text = text.toList.flatMap String.utf8EncodeChar := by
  rw [bytes, ← String.utf8Encode_toList, List.utf8Encode, List.toList_data_toByteArray]

theorem toNat_lt (c : Char) : c.toNat < 0x110000 := by
  have hval : c.val.toNat = c.toNat := rfl
  rcases c.valid with h | h <;> omega

/-- The bytes of a smaller character are smaller, whatever follows. -/
theorem encode_lt {c d : Char} (h : c < d) (first second : List UInt8) :
    String.utf8EncodeChar c ++ first < String.utf8EncodeChar d ++ second := by
  have hnat : c.toNat < d.toNat := h
  have hbound := toNat_lt d
  have hc : c.val.toNat = c.toNat := rfl
  have hd : d.val.toNat = d.toNat := rfl
  have h4096 (k : Nat) : k / 4096 = k / 64 / 64 := by omega
  have h262144 (k : Nat) : k / 262144 = k / 64 / 64 / 64 := by omega
  unfold String.utf8EncodeChar
  simp only [hc, hd, h4096, h262144]
  generalize c.toNat = m at *
  generalize d.toNat = n at *
  -- One case for each pair of lengths; the byte that tells the length is compared first.
  repeat' split
  all_goals
    simp only [List.cons_append, List.cons_lt_cons_iff, UInt8.lt_iff_toNat_lt,
      UInt8.toNat_ofNat', ← UInt8.toNat_inj]
    omega

theorem flatMap_encode_lt {xs ys : List Char} (h : xs < ys) :
    xs.flatMap String.utf8EncodeChar < ys.flatMap String.utf8EncodeChar := by
  induction xs generalizing ys with
  | nil =>
    cases ys with
    | nil => exact absurd h (List.lt_irrefl _)
    | cons y ys =>
      have hlength := String.length_utf8EncodeChar y
      have hpos := Char.utf8Size_pos y
      rw [List.flatMap_nil, List.flatMap_cons]
      cases hbytes : String.utf8EncodeChar y with
      | nil =>
        rw [hbytes, List.length_nil] at hlength
        omega
      | cons byte rest => exact List.nil_lt_cons _ _
  | cons x xs ih =>
    cases ys with
    | nil => exact absurd h (List.not_lt_nil _)
    | cons y ys =>
      rw [List.flatMap_cons, List.flatMap_cons]
      rcases List.cons_lt_cons_iff.mp h with hlt | ⟨rfl, hlt⟩
      · exact encode_lt hlt _ _
      · exact List.append_left_lt (ih hlt)

/-- Comparing texts by code points is comparing them byte by byte. -/
theorem bytes_lt_iff (s t : String) : bytes s < bytes t ↔ s < t := by
  have hmono {s t : String} (h : s < t) : bytes s < bytes t := by
    rw [bytes_eq, bytes_eq]
    exact flatMap_encode_lt (String.lt_iff.mp h)
  constructor
  · intro h
    by_cases hlt : s < t
    · exact hlt
    · have hne : t ≠ s := by
        rintro rfl
        exact List.lt_irrefl _ h
      have hgt : t < s := Std.lt_of_le_of_ne (String.not_lt.mp hlt) hne
      exact absurd (List.lt_trans h (hmono hgt)) (List.lt_irrefl _)
  · exact hmono

theorem bytes_le_of_le {s t : String} (h : s ≤ t) : bytes s ≤ bytes t := by
  rw [← List.not_lt, bytes_lt_iff]
  exact String.not_lt.mpr h

end BenchReport.Text
