import BenchReport.Proofs.Text.ByteCut
import BenchReport.Proofs.Window.Grammar
import Mathlib.Data.List.Induction

/-!
Reading durations. The well-formed texts are read, each as the milliseconds that it names unless
these are too many, and any other text fails at the first check that it does not pass.
-/
namespace BenchReport.Window

/-- The units that may still follow some components: those smaller than all of them, the largest
first. -/
structure Allowed (parts : List Component) (units : List Scale) : Prop where
  descending : units.Pairwise fun a b => b.millis < a.millis
  mem_iff (u : Scale) : u ∈ units ↔ ∀ part ∈ parts, u.millis < part.scale.millis

theorem allowed_all : Allowed [] Scale.all := by
  refine ⟨by decide, fun u => ?_⟩
  cases u <;> simp [Scale.all]

/-- Once a unit is used, the units behind it are allowed. -/
theorem Allowed.split {parts : List Component} {units : List Scale} (allowed : Allowed parts units)
    {u : Scale} (hunit : ∀ part ∈ parts, u.millis < part.scale.millis) :
    ∃ before after, units = before ++ u :: after ∧ (∀ v ∈ before, u.symbol ≠ v.symbol) ∧
      ∀ part : Component, part.scale = u → Allowed (parts ++ [part]) after := by
  obtain ⟨before, after, rfl⟩ := List.append_of_mem ((allowed.mem_iff u).mpr hunit)
  obtain ⟨-, hafter, hbefore⟩ := List.pairwise_append.mp allowed.descending
  obtain ⟨hbelow, hdescending⟩ := List.pairwise_cons.mp hafter
  refine ⟨before, after, rfl, fun v hv hsymbol => ?_, ?_⟩
  · have hlt := hbefore v hv u List.mem_cons_self
    rw [Scale.symbol_inj.mp hsymbol] at hlt
    exact Nat.lt_irrefl _ hlt
  · rintro part rfl
    refine ⟨hdescending, fun v => ⟨fun hv other hother => ?_, fun hv => ?_⟩⟩
    · rcases List.mem_append.mp hother with hother | hother
      · exact (allowed.mem_iff v).mp (by simp [hv]) other hother
      · rw [List.mem_singleton.mp hother]
        exact hbelow v hv
    · have hmem := (allowed.mem_iff v).mpr fun other hother => hv other (by simp [hother])
      have hlt := hv part (by simp)
      rcases List.mem_append.mp hmem with hmem | hmem
      · exact absurd hlt (Nat.lt_asymm (hbefore v hmem part.scale List.mem_cons_self))
      · rcases List.mem_cons.mp hmem with rfl | hmem
        · exact absurd hlt (Nat.lt_irrefl _)
        · exact hmem

section Reading

variable {units : List Scale} {text rest letters : List Char} {count : Nat}

theorem readComponents_of_error {failure : Failure} (hne : text ≠ [])
    (h : splitComponent text = .error failure) (sum : Nat) :
    readComponents units sum text = .error failure := by
  cases units with
  | nil =>
    rw [readComponents, h]
    exact hne
  | cons u units =>
    rw [readComponents, h]
    exact hne

theorem readComponents_of_noUnit (hne : text ≠ [])
    (h : splitComponent text = .ok (count, letters, rest))
    (hnone : ∀ u ∈ units, letters ≠ u.symbol) (sum : Nat) :
    readComponents units sum text = .error .invalid := by
  induction units with
  | nil =>
    rw [readComponents, h]
    exact hne
  | cons u units ih =>
    have hother := ih fun v hv => hnone v (List.mem_cons_of_mem _ hv)
    rw [readComponents, h]
    · simp only [if_neg (hnone u List.mem_cons_self), hother]
    · exact hne

/-- Units that are not meant are passed over. -/
theorem readComponents_of_unit {before after : List Scale} {u : Scale} (hne : text ≠ [])
    (h : splitComponent text = .ok (count, u.symbol, rest))
    (hbefore : ∀ v ∈ before, u.symbol ≠ v.symbol) (sum : Nat) :
    readComponents (before ++ u :: after) sum text =
      if maxMillis < count * u.millis then .error .overflow
      else if maxMillis < sum + count * u.millis then .error .overflow
      else readComponents after (sum + count * u.millis) rest := by
  induction before with
  | nil =>
    rw [List.nil_append, readComponents, h]
    · simp only [if_true]
    · exact hne
  | cons v before ih =>
    have hother := ih fun w hw => hbefore w (List.mem_cons_of_mem _ hw)
    rw [List.cons_append, readComponents, h]
    · simp only [if_neg (hbefore v List.mem_cons_self), hother]
    · exact hne

theorem splitComponent_of_passes {parts : List Component} (hdigits : Check.digits.Passes parts rest)
    (hnumber : Check.number.Passes parts rest) :
    splitComponent rest = .ok (runNumber rest, letterRun rest, afterRuns rest) := by
  rw [splitComponent_eq, if_neg hdigits, if_neg (Nat.not_lt.mpr hnumber)]

/-- Reading one component whose unit may stand there: only product and sum are still looked at. -/
theorem readComponents_step {parts : List Component} (allowed : Allowed parts units)
    (hne : rest ≠ []) (hdigits : Check.digits.Passes parts rest)
    (hnumber : Check.number.Passes parts rest) (hunit : Check.unit.Passes parts rest) :
    ∃ u after, letterRun rest = u.symbol ∧
      (∀ part : Component, part.scale = u → Allowed (parts ++ [part]) after) ∧
      readComponents units (total parts) rest =
        if maxMillis < runNumber rest * u.millis then .error .overflow
        else if maxMillis < total parts + runNumber rest * u.millis then .error .overflow
        else readComponents after (total parts + runNumber rest * u.millis) (afterRuns rest) := by
  obtain ⟨u, hsymbol, hbelow⟩ := hunit
  obtain ⟨before, after, rfl, hbefore, hallowed⟩ := allowed.split hbelow
  have hsplit := splitComponent_of_passes hdigits hnumber
  rw [hsymbol] at hsplit
  exact ⟨u, after, hsymbol, hallowed, readComponents_of_unit hne hsplit hbefore _⟩

/-- Where a check fails first, reading ends with its failure. -/
theorem readComponents_of_fails {parts : List Component} {check : Check}
    (allowed : Allowed parts units) (hne : rest ≠ []) (hfails : ¬check.Passes parts rest)
    (hearlier : ∀ earlier : Check, earlier.rank < check.rank → earlier.Passes parts rest) :
    readComponents units (total parts) rest = .error check.failure := by
  cases check with
  | digits =>
    apply readComponents_of_error hne
    rw [splitComponent_eq, if_pos (Classical.not_not.mp hfails)]
    rfl
  | number =>
    apply readComponents_of_error hne
    rw [splitComponent_eq, if_neg (hearlier .digits (by decide)), if_pos (Nat.not_le.mp hfails)]
    rfl
  | unit =>
    have hsplit := splitComponent_of_passes (hearlier .digits (by decide))
      (hearlier .number (by decide))
    apply readComponents_of_noUnit hne hsplit
    intro u hu hsymbol
    exact hfails ⟨u, hsymbol, (allowed.mem_iff u).mp hu⟩
  | product =>
    obtain ⟨u, after, hsymbol, -, hread⟩ := readComponents_step allowed hne
      (hearlier .digits (by decide)) (hearlier .number (by decide)) (hearlier .unit (by decide))
    have hproduct : maxMillis < runNumber rest * u.millis := by
      by_contra hle
      refine hfails fun v hv => ?_
      rw [← Scale.symbol_inj.mp (hsymbol.symm.trans hv)]
      exact Nat.not_lt.mp hle
    rw [hread, if_pos hproduct]
    rfl
  | sum =>
    obtain ⟨u, after, hsymbol, -, hread⟩ := readComponents_step allowed hne
      (hearlier .digits (by decide)) (hearlier .number (by decide)) (hearlier .unit (by decide))
    have hproduct := hearlier .product (by decide) u hsymbol
    have hsum : maxMillis < total parts + runNumber rest * u.millis := by
      by_contra hle
      refine hfails fun v hv => ?_
      rw [← Scale.symbol_inj.mp (hsymbol.symm.trans hv)]
      exact Nat.not_lt.mp hle
    rw [hread, if_neg (Nat.not_lt.mpr hproduct), if_pos hsum]
    rfl

end Reading

theorem total_concat (parts : List Component) (part : Component) :
    total (parts ++ [part]) = total parts + part.millis := by
  induction parts with
  | nil => exact Nat.add_comm part.millis 0
  | cons first rest ih => rw [List.cons_append, total, total, ih, Nat.add_assoc]

theorem text_append_ne_nil (part : Component) (rest : List Char) : part.text ++ rest ≠ [] := by
  rw [Component.text, List.append_assoc]
  exact List.append_ne_nil_of_left_ne_nil part.nonempty _

/-- What was read of a text shows in the units and in the sum with which reading goes on. -/
theorem Reads.readComponents_eq {text rest : List Char} {parts : List Component}
    (h : Reads text parts rest) :
    ∃ units, Allowed parts units ∧
      readComponents Scale.all 0 text = readComponents units (total parts) rest := by
  induction h with
  | start => exact ⟨Scale.all, allowed_all, rfl⟩
  | @next parts part rest _ ended passes ih =>
    obtain ⟨units, allowed, hread⟩ := ih
    obtain ⟨u, after, hsymbol, hallowed, hstep⟩ := readComponents_step allowed
      (text_append_ne_nil part rest) (passes .digits) (passes .number) (passes .unit)
    have hproduct := passes .product u hsymbol
    have hsum := passes .sum u hsymbol
    rw [letterRun_component part ended] at hsymbol
    have hscale := Scale.symbol_inj.mp hsymbol
    subst hscale
    refine ⟨after, hallowed part rfl, ?_⟩
    rw [hread, hstep, if_neg (Nat.not_lt.mpr hproduct), if_neg (Nat.not_lt.mpr hsum),
      runNumber_component, afterRuns_component part ended, total_concat, Component.millis]

/-- The components that were read have descending units and few enough milliseconds. -/
theorem Reads.sound {text rest : List Char} {parts : List Component} (h : Reads text parts rest) :
    text = spelling parts ++ rest ∧ Descending parts ∧ total parts ≤ maxMillis := by
  induction h with
  | start => exact ⟨rfl, .nil, Nat.zero_le _⟩
  | @next parts part rest _ ended passes ih =>
    obtain ⟨htext, hdescending, -⟩ := ih
    have hsymbol := letterRun_component part ended
    obtain ⟨u, hunit, hbelow⟩ := passes .unit
    rw [hsymbol] at hunit
    have hscale := Scale.symbol_inj.mp hunit
    subst hscale
    have hsum := passes .sum part.scale hsymbol
    rw [runNumber_component] at hsum
    refine ⟨?_, ?_, ?_⟩
    · rw [htext, spelling, spelling, List.flatMap_append, List.flatMap_singleton, List.append_assoc]
    · refine List.pairwise_append.mpr ⟨hdescending, List.pairwise_singleton _ _, ?_⟩
      intro other hother last hlast
      rw [List.mem_singleton.mp hlast]
      exact hbelow other hother
    · rw [total_concat]
      exact hsum

/-- A text of which no check fails first is read to its end. -/
theorem Reads.complete {text rest : List Char} {parts : List Component}
    (h : Reads text parts rest) :
    (∃ all, Reads text all []) ∨ ∃ check, FirstFails text check := by
  -- Every component takes characters away, so the text that is left gets shorter.
  induction hlength : rest.length using Nat.strongRecOn generalizing parts rest with
  | ind n ih =>
    by_cases hne : rest = []
    · subst hne
      exact .inl ⟨parts, h⟩
    · rcases Check.all_or_first fun check => check.Passes parts rest with hall | hfirst
      · obtain ⟨u, hunit, -⟩ := hall .unit
        obtain ⟨part, -, hrest⟩ := exists_component (hall .digits) hunit
        rw [hrest] at h hall
        have hnext := Reads.next h (afterRuns_ended rest) hall
        have hshorter : (afterRuns rest).length < n := by
          have hpos : 0 < part.digits.length := List.length_pos_iff.mpr part.nonempty
          have hsum := congrArg List.length hrest
          rw [Component.text, List.length_append, List.length_append] at hsum
          omega
        exact ih _ hshorter hnext rfl
      · obtain ⟨check, hfails, hearlier⟩ := hfirst
        exact .inr ⟨check, parts, rest, h, hne, hfails, hearlier⟩

section WellFormed

variable {parts : List Component} {part : Component} {rest : List Char}

theorem isAlpha_of_isDigit {c : Char} (h : c.isDigit = true) : c.isAlpha = false := by
  rw [Text.isDigit_iff] at h
  rw [Bool.eq_false_iff, ne_eq, Text.isAlpha_iff]
  omega

/-- Components are followed by digits or by nothing. -/
theorem spelling_ended (parts : List Component) :
    ∀ c ∈ (spelling parts).head?, c.isAlpha = false := by
  intro c hc
  cases parts with
  | nil => cases hc
  | cons part parts =>
    obtain ⟨first, more, hdigits⟩ := List.exists_cons_of_ne_nil part.nonempty
    have hdigit := part.numeric first (by rw [hdigits]; exact List.mem_cons_self)
    rw [spelling, List.flatMap_cons, Component.text, hdigits] at hc
    cases hc
    exact isAlpha_of_isDigit hdigit

theorem passes_digits (parts : List Component) (part : Component) (rest : List Char) :
    Check.digits.Passes parts (part.text ++ rest) := by
  rw [Check.Passes, digitRun_component]
  exact part.nonempty

theorem passes_unit (ended : ∀ c ∈ rest.head?, c.isAlpha = false)
    (hbelow : ∀ other ∈ parts, part.scale.millis < other.scale.millis) :
    Check.unit.Passes parts (part.text ++ rest) :=
  ⟨part.scale, letterRun_component part ended, hbelow⟩

/-- The sum is what the other numbers are bounded by. -/
theorem passes_all (ended : ∀ c ∈ rest.head?, c.isAlpha = false)
    (hbelow : ∀ other ∈ parts, part.scale.millis < other.scale.millis)
    (hsum : total parts + part.millis ≤ maxMillis) (check : Check) :
    check.Passes parts (part.text ++ rest) := by
  have hcount := part.count_le_millis
  have hscale (u : Scale) (hu : letterRun (part.text ++ rest) = u.symbol) :
      runNumber (part.text ++ rest) * u.millis = part.millis := by
    rw [letterRun_component part ended] at hu
    rw [← Scale.symbol_inj.mp hu, runNumber_component, Component.millis]
  cases check with
  | digits => exact passes_digits parts part rest
  | number =>
    rw [Check.Passes, runNumber_component]
    omega
  | unit => exact passes_unit ended hbelow
  | product =>
    intro u hu
    rw [hscale u hu]
    omega
  | sum =>
    intro u hu
    rw [hscale u hu]
    exact hsum

theorem Descending.below {before after : List Component}
    (h : Descending (before ++ part :: after)) :
    ∀ other ∈ before, part.scale.millis < other.scale.millis :=
  fun other hother => (List.pairwise_append.mp h).2.2 other hother part List.mem_cons_self

/-- Components with descending units are read as long as they are few enough milliseconds. -/
theorem reads_of_descending {before after : List Component}
    (h : Descending (before ++ after)) (hsum : total before ≤ maxMillis) :
    Reads (spelling (before ++ after)) before (spelling after) := by
  induction before using List.reverseRecOn generalizing after with
  | nil => exact .start
  | append_singleton before part ih =>
    rw [total_concat] at hsum
    rw [List.append_assoc, List.singleton_append] at h ⊢
    have hread := ih h (by omega)
    rw [spelling, spelling, List.flatMap_cons] at hread
    exact .next hread (spelling_ended after) (passes_all (spelling_ended after) h.below hsum)

/-- Of too many milliseconds a beginning is few enough, and the next component too much. -/
theorem exists_too_much (h : maxMillis < total parts) :
    ∃ before part after, parts = before ++ part :: after ∧ total before ≤ maxMillis ∧
      maxMillis < total before + part.millis := by
  induction parts using List.reverseRecOn with
  | nil => exact absurd h (Nat.not_lt_zero _)
  | append_singleton parts part ih =>
    rw [total_concat] at h
    by_cases hparts : maxMillis < total parts
    · obtain ⟨before, middle, after, rfl, hbefore, hmiddle⟩ := ih hparts
      exact ⟨before, middle, after ++ [part], by simp, hbefore, hmiddle⟩
    · exact ⟨parts, part, [], rfl, Nat.not_lt.mp hparts, h⟩

/-- Components with descending units fail at a number, and only if they are too many
milliseconds. -/
theorem firstFails_of_too_much (descending : Descending parts) (h : maxMillis < total parts) :
    ∃ check, FirstFails (spelling parts) check ∧ check.failure = .overflow := by
  obtain ⟨before, part, after, rfl, hbefore, hpart⟩ := exists_too_much h
  have hread := reads_of_descending descending hbefore
  rw [spelling, spelling, List.flatMap_cons] at hread
  have ended := spelling_ended after
  rcases Check.all_or_first fun check => check.Passes before (part.text ++ spelling after) with
    hall | ⟨check, hfails, hearlier⟩
  · have hsum := hall .sum part.scale (letterRun_component part ended)
    rw [runNumber_component] at hsum
    exact absurd hpart (Nat.not_lt.mpr hsum)
  · refine ⟨check, ⟨before, _, hread, text_append_ne_nil part _, hfails, hearlier⟩, ?_⟩
    cases check with
    | digits => exact absurd (passes_digits before part _) hfails
    | unit => exact absurd (passes_unit ended descending.below) hfails
    | number => rfl
    | product => rfl
    | sum => rfl

end WellFormed

section Parsing

variable {text : String} {parts : List Component}

theorem parse_of_reads (h : Reads text.toList parts []) (hempty : text ≠ "") (hzero : text ≠ "0") :
    parse text = .ok (ofMillis (total parts)) := by
  obtain ⟨units, -, hread⟩ := h.readComponents_eq
  rw [readComponents] at hread
  have hnonempty : ¬text.isEmpty = true := fun hempty' => hempty (String.isEmpty_iff.mp hempty')
  simp only [parse, if_neg hnonempty, if_neg hzero, hread]

theorem parse_of_firstFails {check : Check} (h : FirstFails text.toList check)
    (hzero : text ≠ "0") : parse text = .error (check.error text) := by
  obtain ⟨parts, rest, hreads, hne, hfails, hearlier⟩ := h
  obtain ⟨units, allowed, hread⟩ := hreads.readComponents_eq
  rw [readComponents_of_fails allowed hne hfails hearlier] at hread
  have hnonempty : ¬text.isEmpty = true := by
    intro hempty
    obtain ⟨htext, -⟩ := hreads.sound
    rw [String.isEmpty_iff.mp hempty] at htext
    exact hne (List.append_eq_nil_iff.mp htext.symm).2
  simp only [parse, if_neg hnonempty, if_neg hzero, hread, Check.error]
  cases check.failure <;> rfl

theorem spelling_length (hparts : parts ≠ []) : 2 ≤ (spelling parts).length := by
  obtain ⟨part, more, rfl⟩ := List.exists_cons_of_ne_nil hparts
  obtain ⟨c, letters, hsymbol, -⟩ := part.scale.symbol_head
  have hdigits : 0 < part.digits.length := List.length_pos_iff.mpr part.nonempty
  rw [spelling, List.flatMap_cons, Component.text, hsymbol]
  simp only [List.length_append, List.length_cons]
  omega

/-- A well-formed text is read as what it names, unless that is too much. -/
theorem parse_of_denotes {millis : Nat} (h : Denotes text.toList millis) :
    parse text =
      if millis ≤ maxMillis then .ok (ofMillis millis) else .error (.overflow text) := by
  generalize hchars : text.toList = chars at h
  cases h with
  | zero =>
    obtain rfl : text = "0" := String.ext hchars
    rfl
  | @components parts hparts descending =>
    have hlength := spelling_length hparts
    rw [← hchars] at hlength
    have hempty : text ≠ "" := by
      rintro rfl
      exact absurd hlength (by decide)
    have hzero : text ≠ "0" := by
      rintro rfl
      exact absurd hlength (by decide)
    by_cases hsum : total parts ≤ maxMillis
    · rw [if_pos hsum]
      have hall : Descending (parts ++ []) := by
        rw [List.append_nil]
        exact descending
      have hread := reads_of_descending hall hsum
      rw [List.append_nil, ← hchars] at hread
      exact parse_of_reads hread hempty hzero
    · rw [if_neg hsum]
      obtain ⟨check, hfails, hfailure⟩ := firstFails_of_too_much descending (Nat.not_le.mp hsum)
      rw [← hchars] at hfails
      rw [parse_of_firstFails hfails hzero, Check.error, hfailure]

/-- A text that is not read to its end fails at some check. -/
theorem firstFails_of_not_denotes (hempty : text ≠ "")
    (h : ¬∃ millis, Denotes text.toList millis) : ∃ check, FirstFails text.toList check := by
  have hstart : Reads text.toList [] text.toList := .start
  rcases hstart.complete with ⟨parts, hread⟩ | hfails
  · obtain ⟨htext, descending, -⟩ := hread.sound
    rw [List.append_nil] at htext
    have hparts : parts ≠ [] := by
      rintro rfl
      exact hempty (String.toList_eq_nil_iff.mp htext)
    exact absurd ⟨total parts, htext ▸ .components hparts descending⟩ h
  · exact hfails

end Parsing

/-- The first component of a text, cut out behind its digit bytes and then behind its letter
bytes. -/
def splitComponentAtBytes? (text : List Char) :
    Option (Except Failure (Nat × List Char × List Char)) :=
  match Text.cut? (Text.leadingBytes Text.isDigitByte text) text with
  | none => none
  | some (digits, afterDigits) =>
    let count := Nat.ofDigitChars 10 digits 0
    if digits.isEmpty then some (.error .invalid)
    else if maxMillis < count then some (.error .overflow)
    else
      match Text.cut? (Text.leadingBytes Text.isLetterByte afterDigits) afterDigits with
      | none => none
      | some (letters, rest) => some (.ok (count, letters, rest))

/-- No cut falls into a character. -/
theorem splitComponentAtBytes?_eq (text : List Char) :
    splitComponentAtBytes? text = some (splitComponent text) := by
  simp only [splitComponentAtBytes?, splitComponent, Text.cut?_leadingBytes Text.asciiClass_digit,
    Text.cut?_leadingBytes Text.asciiClass_letter]
  split
  · rfl
  · split
    · rfl
    · rfl

/-- A well-formed text is read as what it names, unless that is too much; any other text has the
error of the first check that fails. The texts may be cut by bytes. -/
theorem parse_by_grammar (text : String) :
    (text = "" → parse text = .error .empty) ∧
      (∀ millis, Denotes text.toList millis →
        parse text =
          if millis ≤ maxMillis then .ok (ofMillis millis) else .error (.overflow text)) ∧
      (text ≠ "" → (¬∃ millis, Denotes text.toList millis) →
        (∃ check, FirstFails text.toList check) ∧
          ∀ check, FirstFails text.toList check → parse text = .error (check.error text)) ∧
      ∀ rest, splitComponentAtBytes? rest = some (splitComponent rest) := by
  refine ⟨?_, fun millis h => parse_of_denotes h, fun hempty hnone => ⟨?_, ?_⟩,
    splitComponentAtBytes?_eq⟩
  · rintro rfl
    rfl
  · exact firstFails_of_not_denotes hempty hnone
  · intro check hfails
    have hzero : text ≠ "0" := by
      rintro rfl
      exact hnone ⟨0, .zero⟩
    exact parse_of_firstFails hfails hzero

/-- Ninety minutes. -/
def hourAndHalf : List Component :=
  [⟨['1'], .hour, by decide, List.all_eq_true.mp (by decide)⟩,
    ⟨['3', '0'], .minute, by decide, List.all_eq_true.mp (by decide)⟩]

theorem parse_by_grammar_units :
    Denotes "1h30m".toList 5400000 ∧ parse "1h30m" = .ok (ofMillis 5400000) ∧
      ∃ check, FirstFails "30m1h".toList check ∧
        parse "30m1h" = .error (check.error "30m1h") := by
  have hparts : Denotes (spelling hourAndHalf) (total hourAndHalf) :=
    .components (by decide) (by decide)
  have hdenotes : Denotes "1h30m".toList 5400000 := hparts
  have hnone : ¬∃ millis, Denotes "30m1h".toList millis := by
    rintro ⟨millis, h⟩
    have hparse : parse "30m1h" = .error (.invalid "30m1h") := by decide
    rw [parse_of_denotes h] at hparse
    split at hparse
    · cases hparse
    · cases hparse
  refine ⟨hdenotes, (parse_by_grammar "1h30m").2.1 _ hdenotes, ?_⟩
  obtain ⟨⟨check, hfails⟩, herror⟩ := (parse_by_grammar "30m1h").2.2.1 (by decide) hnone
  exact ⟨check, hfails, herror check hfails⟩

end BenchReport.Window
