import BenchReport.Proofs.Number.Shortest
import BenchReport.Proofs.Window.RoundTrip
import Mathlib.Data.List.Chain

/-!
The text of a window is the normal form of its milliseconds: years or weeks alone where they divide
the length, else days and smaller units, each below the next larger one. A length has one normal
form, so durations that denote the same length are written the same once they are read.
-/
namespace BenchReport.Window

section Numerals

variable {c : Char} {digits : List Char}

theorem digitChar_of_isDigit (h : c.isDigit = true) :
    c.toNat - '0'.toNat < 10 ∧ (c.toNat - '0'.toNat).digitChar = c := by
  rw [Text.isDigit_iff] at h
  have hzero : '0'.toNat = 48 := rfl
  rw [hzero]
  refine ⟨by omega, Char.toNat_inj.mp ?_⟩
  rw [Nat.toNat_digitChar_of_lt_ten (by omega)]
  omega

theorem toDigits_append (numeric : ∀ c ∈ digits, c.isDigit = true) {leading : Nat}
    (hpos : 0 < leading) :
    Nat.toDigits 10 leading ++ digits = Nat.toDigits 10 (Nat.ofDigitChars 10 digits leading) := by
  induction digits generalizing leading with
  | nil => exact List.append_nil _
  | cons c digits ih =>
    obtain ⟨hlt, hchar⟩ := digitChar_of_isDigit (numeric c List.mem_cons_self)
    have hnext := Nat.toDigits_append_toDigits (b := 10) (by decide) hpos hlt
    rw [Nat.toDigits_of_lt_base hlt, hchar] at hnext
    rw [Nat.ofDigitChars_cons, ← ih (fun d hd => numeric d (List.mem_cons_of_mem _ hd)) (by omega),
      ← hnext, List.append_assoc, List.singleton_append]

/-- Digits are the numeral of their number, unless they begin with zero. -/
theorem toDigits_ofDigitChars (nonempty : digits ≠ []) (numeric : ∀ c ∈ digits, c.isDigit = true)
    (leads : ∀ c ∈ digits.head?, c ≠ '0') :
    Nat.toDigits 10 (Nat.ofDigitChars 10 digits 0) = digits := by
  obtain ⟨c, rest, rfl⟩ := List.exists_cons_of_ne_nil nonempty
  obtain ⟨hlt, hchar⟩ := digitChar_of_isDigit (numeric c List.mem_cons_self)
  have hpos : 0 < c.toNat - '0'.toNat := by
    refine Nat.pos_of_ne_zero fun hzero => leads c rfl ?_
    rw [← hchar, hzero]
    rfl
  rw [Nat.ofDigitChars_cons, Nat.mul_zero, Nat.zero_add,
    ← toDigits_append (fun d hd => numeric d (List.mem_cons_of_mem _ hd)) hpos,
    Nat.toDigits_of_lt_base hlt, hchar, List.singleton_append]

end Numerals

namespace Scale

/-- The units that are written with each other, largest first. -/
def mixed : List Scale := [day, hour, minute, second, milli]

/-- How many of a unit are too many beside larger units. -/
def limit? : Scale → Option Nat
  | hour => some 24
  | minute | second => some 60
  | milli => some 1000
  | year | week | day => none

/-- One unit is made up of another at its limit. -/
def MadeUpOf (u v : Scale) : Prop := ∃ limit ∈ v.limit?, u.millis = limit * v.millis

theorem mixed_madeUp : mixed.IsChain MadeUpOf :=
  .cons_cons ⟨24, rfl, rfl⟩ (.cons_cons ⟨60, rfl, rfl⟩ (.cons_cons ⟨60, rfl, rfl⟩
    (.cons_cons ⟨1000, rfl, rfl⟩ (.singleton _))))

theorem exactOnly_of_mem_mixed {u : Scale} (h : u ∈ mixed) : u.exactOnly = false := by
  cases u <;> first | rfl | exact absurd h (by decide)

end Scale

/-- A number is positive and does not begin with zero. -/
structure Component.Plain (part : Component) : Prop where
  positive : 0 < part.count
  leads : ∀ c ∈ part.digits.head?, c ≠ '0'

/-- A number is below the limit of its unit. -/
def Component.Bounded (part : Component) : Prop := ∀ limit ∈ part.scale.limit?, part.count < limit

/-- The normal form of a number of milliseconds: years if these are exact, else weeks if these are,
else what is left to days and smaller units. -/
inductive Normal : Nat → List Char → Prop
  | zero : Normal 0 ['0', 's']
  | years {part : Component} (unit : part.scale = .year) (plain : part.Plain) :
      Normal part.millis part.text
  | weeks {part : Component} (unit : part.scale = .week) (plain : part.Plain)
      (notYears : ¬Scale.year.millis ∣ part.millis) : Normal part.millis part.text
  | mixed {parts : List Component} (units : (parts.map Component.scale).Sublist Scale.mixed)
      (plain : ∀ part ∈ parts, part.Plain) (bounded : ∀ part ∈ parts, part.Bounded)
      (notYears : ¬Scale.year.millis ∣ total parts) (notWeeks : ¬Scale.week.millis ∣ total parts) :
      Normal (total parts) (spelling parts)

section Components

variable {u : Scale} {units : List Scale} {count left : Nat}

theorem components_of_not_dvd (hexact : u.exactOnly = true) (h : ¬u.millis ∣ count) :
    components (u :: units) count = components units count := by
  have hskip : count % u.millis ≠ 0 := fun hzero => h (Nat.dvd_of_mod_eq_zero hzero)
  rw [components, if_pos (by simp [hexact, hskip])]

theorem components_of_lt (h : count < u.millis) :
    components (u :: units) count = components units count := by
  rw [components, Nat.div_eq_of_lt h, if_pos rfl]
  split <;> rfl

theorem components_of_used (units : List Scale) (hexact : u.exactOnly = true → left = 0)
    (hpos : 0 < count) (hleft : left < u.millis) :
    components (u :: units) (count * u.millis + left) = (count, u) :: components units left := by
  have hdiv : (count * u.millis + left) / u.millis = count := by
    rw [Nat.mul_comm, Nat.mul_add_div u.millis_pos, Nat.div_eq_of_lt hleft, Nat.add_zero]
  have hmod : (count * u.millis + left) % u.millis = left := by
    rw [Nat.mul_comm, Nat.mul_add_mod, Nat.mod_eq_of_lt hleft]
  rw [components, hdiv, hmod, if_neg, if_neg (Nat.ne_of_gt hpos)]
  rw [Bool.and_eq_true, bne_iff_ne]
  exact fun h => h.2 (hexact h.1)

theorem components_exact (hpos : 0 < count) :
    components (u :: units) (count * u.millis) = [(count, u)] := by
  have h := components_of_used units (fun _ => rfl) hpos u.millis_pos
  rwa [Nat.add_zero, components_zero] at h

theorem components_positive (units : List Scale) (count : Nat) :
    ∀ part ∈ components units count, 0 < part.1 := by
  induction units generalizing count with
  | nil => exact fun part h => by cases h
  | cons u units ih =>
    rw [components]
    split
    case isTrue => exact ih count
    case isFalse =>
      split
      case isTrue => exact ih count
      case isFalse hused => exact List.forall_mem_cons.mpr ⟨Nat.pos_of_ne_zero hused, ih _⟩

/-- What is left below a unit is below the limit of the next smaller one. -/
theorem components_bounded (chain : units.IsChain Scale.MadeUpOf)
    (mixed : ∀ u ∈ units, u.exactOnly = false)
    (hhead : ∀ u ∈ units.head?, ∀ limit ∈ u.limit?, count < limit * u.millis) :
    ∀ part ∈ components units count, ∀ limit ∈ part.2.limit?, part.1 < limit := by
  induction units generalizing count with
  | nil => exact fun part h => by cases h
  | cons u units ih =>
    obtain ⟨hnext, chain⟩ := List.isChain_cons.mp chain
    have hrest {left : Nat} (hleft : left < u.millis) :
        ∀ part ∈ components units left, ∀ limit ∈ part.2.limit?, part.1 < limit := by
      refine ih chain (fun v hv => mixed v (List.mem_cons_of_mem _ hv)) fun v hv limit hlimit => ?_
      obtain ⟨other, hother, hmillis⟩ := hnext v hv
      rwa [Option.mem_unique hlimit hother, ← hmillis]
    by_cases hlt : count < u.millis
    · rw [components_of_lt hlt]
      exact hrest hlt
    · have hpos : 0 < count / u.millis := Nat.div_pos (Nat.not_lt.mp hlt) u.millis_pos
      have hmod := Nat.mod_lt count u.millis_pos
      have hexact : u.exactOnly = true → count % u.millis = 0 := by
        rw [mixed u List.mem_cons_self]
        exact fun h => absurd h Bool.false_ne_true
      have hsplit := components_of_used units hexact hpos hmod
      rw [Nat.mul_comm, Nat.div_add_mod] at hsplit
      rw [hsplit]
      refine List.forall_mem_cons.mpr ⟨fun limit hlimit => ?_, hrest hmod⟩
      exact (Nat.div_lt_iff_lt_mul u.millis_pos).mpr (hhead u rfl limit hlimit)

end Components

section Mixed

variable {u : Scale} {units : List Scale} {parts : List Component}

theorem units_cons (h : (parts.map Component.scale).Sublist (u :: units)) :
    (parts.map Component.scale).Sublist units ∨
      ∃ part rest, parts = part :: rest ∧ part.scale = u ∧
        (rest.map Component.scale).Sublist units := by
  rcases List.sublist_cons_iff.mp h with h | ⟨scales, hscales, h⟩
  · exact .inl h
  · obtain ⟨part, rest, rfl, hpart, rfl⟩ := List.map_eq_cons_iff.mp hscales
    exact .inr ⟨part, rest, rfl, hpart, h⟩

/-- Numbers below their limits do not add up to a unit that is larger than theirs. -/
theorem total_lt (chain : (u :: units).IsChain Scale.MadeUpOf)
    (hunits : (parts.map Component.scale).Sublist units)
    (bounded : ∀ part ∈ parts, part.Bounded) : total parts < u.millis := by
  induction units generalizing u parts with
  | nil =>
    rw [List.map_eq_nil_iff.mp (List.sublist_nil.mp hunits)]
    exact u.millis_pos
  | cons v units ih =>
    obtain ⟨⟨limit, hlimit, hmillis⟩, chain⟩ := List.isChain_cons_cons.mp chain
    have hfits {count : Nat} (hcount : count < limit) : (count + 1) * v.millis ≤ u.millis :=
      hmillis ▸ Nat.mul_le_mul_right _ hcount
    rcases units_cons hunits with hsmaller | ⟨part, rest, rfl, rfl, hsmaller⟩
    · have hpos : 0 < limit := by
        refine Nat.pos_of_ne_zero fun hzero => Nat.ne_of_gt u.millis_pos ?_
        rw [hmillis, hzero, Nat.zero_mul]
      have hlt := ih chain hsmaller bounded
      have hle := hfits hpos
      omega
    · obtain ⟨hpart, hrest⟩ := List.forall_mem_cons.mp bounded
      have hlt := ih chain hsmaller hrest
      have hle := hfits (hpart limit hlimit)
      rw [Nat.add_mul, Nat.one_mul] at hle
      rw [total, Component.millis]
      omega

/-- Numbers below their limits are the ones that are written for their sum. -/
theorem components_total (chain : units.IsChain Scale.MadeUpOf)
    (mixed : ∀ u ∈ units, u.exactOnly = false)
    (hunits : (parts.map Component.scale).Sublist units)
    (positive : ∀ part ∈ parts, 0 < part.count) (bounded : ∀ part ∈ parts, part.Bounded) :
    components units (total parts) = parts.map fun part => (part.count, part.scale) := by
  induction units generalizing parts with
  | nil =>
    rw [List.map_eq_nil_iff.mp (List.sublist_nil.mp hunits)]
    rfl
  | cons u units ih =>
    obtain ⟨hexact, hmixed⟩ := List.forall_mem_cons.mp mixed
    rcases units_cons hunits with hsmaller | ⟨part, rest, rfl, rfl, hsmaller⟩
    · rw [components_of_lt (total_lt chain hsmaller bounded)]
      exact ih chain.tail hmixed hsmaller positive bounded
    · obtain ⟨hpart, hpositive⟩ := List.forall_mem_cons.mp positive
      obtain ⟨-, hbounded⟩ := List.forall_mem_cons.mp bounded
      have hleft := total_lt chain hsmaller hbounded
      have hnever : part.scale.exactOnly = true → total rest = 0 := by
        rw [hexact]
        exact fun h => absurd h Bool.false_ne_true
      rw [total, Component.millis, components_of_used _ hnever hpart hleft,
        ih chain.tail hmixed hsmaller hpositive hbounded, List.map_cons]

end Mixed

theorem Component.Plain.componentText_eq {part : Component} (h : part.Plain) :
    componentText (part.count, part.scale) = part.text := by
  rw [componentText, Component.count, toDigits_ofDigitChars part.nonempty part.numeric h.leads,
    Component.text]

theorem Component.plain_ofNumber {count : Nat} (h : 0 < count) (u : Scale) :
    (Component.ofNumber count u).Plain where
  positive := by
    rw [Component.count, Component.ofNumber, Nat.ofDigitChars_ten_toDigits]
    exact h
  leads := by
    obtain ⟨first, rest, hdigits, hfirst⟩ := toDigits_leads h
    intro c hc
    have hhead : (Nat.toDigits 10 count).head? = some c := hc
    rw [hdigits] at hhead
    cases hhead
    exact hfirst

theorem flatMap_componentText {parts : List Component} (plain : ∀ part ∈ parts, part.Plain) :
    (parts.map fun part => (part.count, part.scale)).flatMap componentText = spelling parts := by
  rw [List.flatMap_map, spelling]
  exact List.flatMap_congr fun part hpart => (plain part hpart).componentText_eq

theorem millisText_of_pos {count : Nat} (h : 0 < count) :
    millisText count = (components Scale.all count).flatMap componentText := by
  rw [millisText, if_neg (Nat.ne_of_gt h)]

/-- A normal form is what is written for its length. -/
theorem Normal.eq_millisText {count : Nat} {text : List Char} (h : Normal count text) :
    millisText count = text := by
  have hskip {count : Nat} (notYears : ¬Scale.year.millis ∣ count) :
      components Scale.all count = components (.week :: Scale.mixed) count :=
    components_of_not_dvd rfl notYears
  have hpos {count : Nat} (notYears : ¬Scale.year.millis ∣ count) : 0 < count :=
    Nat.pos_of_ne_zero fun hzero => notYears (hzero ▸ Nat.dvd_zero _)
  cases h with
  | zero => rfl
  | @years part unit plain =>
    have hmillis : 0 < part.millis := Nat.lt_of_lt_of_le plain.positive part.count_le_millis
    have hparts : components Scale.all part.millis = [(part.count, part.scale)] := by
      rw [Component.millis, unit]
      exact components_exact plain.positive
    rw [millisText_of_pos hmillis, hparts, List.flatMap_singleton, plain.componentText_eq]
  | @weeks part unit plain notYears =>
    have hparts : components Scale.all part.millis = [(part.count, part.scale)] := by
      rw [hskip notYears, Component.millis, unit]
      exact components_exact plain.positive
    rw [millisText_of_pos (hpos notYears), hparts, List.flatMap_singleton, plain.componentText_eq]
  | @mixed parts units plain bounded notYears notWeeks =>
    have hparts := components_total Scale.mixed_madeUp (fun _ => Scale.exactOnly_of_mem_mixed)
      units (fun part hpart => (plain part hpart).positive) bounded
    rw [millisText_of_pos (hpos notYears), hskip notYears, components_of_not_dvd rfl notWeeks,
      hparts, flatMap_componentText plain]

/-- What years and weeks do not divide is left to days and smaller units. -/
theorem normal_mixed {count : Nat} (notYears : ¬Scale.year.millis ∣ count)
    (notWeeks : ¬Scale.week.millis ∣ count) : ∃ text, Normal count text := by
  obtain ⟨parts, hparts⟩ : ∃ parts : List Component,
      (components Scale.mixed count).map (fun part => .ofNumber part.1 part.2) = parts := ⟨_, rfl⟩
  have htotal : total parts = count := by
    rw [← hparts]
    exact total_components (by decide) count
  have hunits : (parts.map Component.scale).Sublist Scale.mixed := by
    rw [← hparts, List.map_map]
    exact components_sublist Scale.mixed count
  have hwritten : ∀ part ∈ parts, part.Plain ∧ part.Bounded := by
    have hbounded := components_bounded Scale.mixed_madeUp
      (fun _ => Scale.exactOnly_of_mem_mixed)
      (show ∀ u ∈ Scale.mixed.head?, ∀ limit ∈ u.limit?, count < limit * u.millis by
        simp [Scale.mixed, Scale.limit?])
    rw [← hparts]
    refine List.forall_mem_map.mpr fun part hpart => ⟨?_, fun limit hlimit => ?_⟩
    · exact Component.plain_ofNumber (components_positive _ _ part hpart) part.2
    · rw [Component.count_ofNumber]
      exact hbounded part hpart limit hlimit
  clear hparts
  subst htotal
  exact ⟨_, .mixed hunits (fun part hpart => (hwritten part hpart).1)
    (fun part hpart => (hwritten part hpart).2) notYears notWeeks⟩

/-- Every length has a normal form. -/
theorem exists_normal (count : Nat) : ∃ text, Normal count text := by
  by_cases hyears : Scale.year.millis ∣ count
  case pos =>
    obtain ⟨years, rfl⟩ := hyears
    rw [Nat.mul_comm, ← Component.millis_ofNumber]
    rcases Nat.eq_zero_or_pos years with rfl | hpos
    · exact ⟨_, .zero⟩
    · exact ⟨_, .years rfl (Component.plain_ofNumber hpos .year)⟩
  case neg =>
    by_cases hweeks : Scale.week.millis ∣ count
    case pos =>
      obtain ⟨weeks, rfl⟩ := hweeks
      rw [Nat.mul_comm, ← Component.millis_ofNumber] at hyears ⊢
      have hpos : 0 < weeks := by
        refine Nat.pos_of_ne_zero fun hzero => hyears ?_
        rw [hzero, Component.millis_ofNumber, Nat.zero_mul]
        exact Nat.dvd_zero _
      exact ⟨_, .weeks rfl (Component.plain_ofNumber hpos .week) hyears⟩
    case neg => exact normal_mixed hyears hweeks

theorem normal_iff {count : Nat} {text : List Char} :
    Normal count text ↔ millisText count = text := by
  constructor
  · exact Normal.eq_millisText
  · rintro rfl
    obtain ⟨text, h⟩ := exists_normal count
    rwa [h.eq_millisText]

section Parsed

variable {text : String} {w : Window}

/-- A text that is read denotes the milliseconds of the window, and nothing else. -/
theorem denotes_iff_of_parse (h : parse text = .ok w) (millis : Nat) :
    Denotes text.toList millis ↔ millis = w.millis := by
  have hread {millis : Nat} (hdenotes : Denotes text.toList millis) : millis = w.millis := by
    rw [parse_of_denotes hdenotes] at h
    split at h
    case isTrue hle =>
      cases h
      rw [millis_ofMillis, Nat.min_eq_left hle]
    case isFalse => cases h
  refine ⟨hread, ?_⟩
  rintro rfl
  have hsome : ∃ millis, Denotes text.toList millis := by
    by_contra hnone
    have hempty : text ≠ "" := by
      rintro rfl
      cases h
    have hzero : text ≠ "0" := by
      rintro rfl
      exact hnone ⟨0, .zero⟩
    obtain ⟨check, hfails⟩ := firstFails_of_not_denotes hempty hnone
    rw [parse_of_firstFails hfails hzero] at h
    cases h
  obtain ⟨millis, hdenotes⟩ := hsome
  rwa [← hread hdenotes]

/-- A duration as it is written once it is read. -/
def normalized (text : String) : Except Error String := (parse text).map Window.text

theorem normalized_eq_ok {out : String} :
    normalized text = .ok out ↔ ∃ w, parse text = .ok w ∧ w.text = out := by
  rw [normalized]
  cases parse text with
  | error error => simp [Except.map]
  | ok w => simp [Except.map]

theorem normalized_text (w : Window) : normalized w.text = .ok w.text := by
  refine normalized_eq_ok.mpr ⟨_, parse_text w, ?_⟩
  rw [text_eq_iff, millis_ofMillis, Nat.min_eq_left w.millis_le]

end Parsed

/-- The text of a window is the one normal form of its milliseconds. So a normalized duration is not
changed when it is normalized again, and two durations are normalized alike exactly if they denote
the same milliseconds. -/
theorem text_normal :
    (∀ (w : Window) (chars : List Char), w.text.toList = chars ↔ Normal w.millis chars) ∧
      (∀ text out : String, normalized text = .ok out → normalized out = .ok out) ∧
      ∀ first second out other : String, normalized first = .ok out →
        normalized second = .ok other →
          ∃ m n, (∀ millis, Denotes first.toList millis ↔ millis = m) ∧
            (∀ millis, Denotes second.toList millis ↔ millis = n) ∧ (out = other ↔ m = n) := by
  refine ⟨fun w chars => ?_, fun source out h => ?_, fun first second out other hout hother => ?_⟩
  · rw [normal_iff, text, String.toList_ofList]
  · obtain ⟨w, -, rfl⟩ := normalized_eq_ok.mp h
    exact normalized_text w
  · obtain ⟨v, hv, rfl⟩ := normalized_eq_ok.mp hout
    obtain ⟨w, hw, rfl⟩ := normalized_eq_ok.mp hother
    exact ⟨v.millis, w.millis, denotes_iff_of_parse hv, denotes_iff_of_parse hw, text_eq_iff⟩

/-- Two weeks and three days are seventeen days, and so they are written. -/
theorem text_normal_seventeenDays :
    normalized "2w3d" = .ok "17d" ∧ normalized "0017d0s" = .ok "17d" ∧
      normalized "17d" = .ok "17d" ∧ Normal (ofMillis 1468800000).millis ['1', '7', 'd'] ∧
      ∃ m n, (∀ millis, Denotes "2w3d".toList millis ↔ millis = m) ∧
        (∀ millis, Denotes "0017d0s".toList millis ↔ millis = n) ∧ m = n := by
  have hweeks : normalized "2w3d" = .ok "17d" := by decide
  have hdays : normalized "0017d0s" = .ok "17d" := by decide
  obtain ⟨m, n, hm, hn, hiff⟩ := text_normal.2.2 _ _ _ _ hweeks hdays
  exact ⟨hweeks, hdays, text_normal.2.1 _ _ hweeks, (text_normal.1 _ _).mp (by decide), m, n, hm,
    hn, hiff.mp rfl⟩

end BenchReport.Window
