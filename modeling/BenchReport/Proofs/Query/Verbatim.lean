import BenchReport.Proofs.Query.Decomposition
import BenchReport.Query.Request
import BenchReport.Query.Resource
import Mathlib.Algebra.Group.Nat.Defs

/-!
The query of every builder is one PromQL text with the arguments in it as they are, whatever they
contain.
-/
namespace BenchReport.Query

namespace Promql

/-- Requests of a method and a route over a range. -/
def requests (metric job method route code range : String) : String :=
  metric ++ "\x7bjob=~\".*" ++ job ++ ".*\", method=\"" ++ method ++ "\", route=~\"" ++ route ++
    "\", status_code=~\"" ++ code ++ "\"\x7d[" ++ range ++ "]"

def requestRate (job route code range : String) : String :=
  "sum(rate(loki_request_duration_seconds_count\x7bjob=~\".*" ++ job ++ ".*\", route=~\"" ++
    route ++ "\", status_code=~\"" ++ code ++ "\"\x7d[" ++ range ++ "]))"

def durationSum (job method route code range : String) : String :=
  "sum(rate(" ++ requests "loki_request_duration_seconds_sum" job method route code range ++ "))"

def durationCount (job method route code range floor : String) : String :=
  "clamp_min(sum(rate(" ++
    requests "loki_request_duration_seconds_count" job method route code range ++ "))," ++ floor ++
    ")"

def quotient (numerator denominator factor : String) : String :=
  "(" ++ numerator ++ " / " ++ denominator ++ ") * " ++ factor

def durationQuantile (fraction job method route code range factor : String) : String :=
  "histogram_quantile(" ++ fraction ++ ", sum by (job, le) (rate(" ++
    requests "loki_request_duration_seconds_bucket" job method route code range ++ "))) * " ++
    factor

def indexRate (job operator operation code range : String) : String :=
  "sum(rate(loki_index_request_duration_seconds_count\x7bjob=~\".*" ++ job ++ ".*\", operation" ++
    operator ++ "\"" ++ operation ++ "\", status_code=~\"" ++ code ++ "\"\x7d[" ++ range ++ "]))"

def containerCpu (job range factor : String) : String :=
  "sum(avg_over_time(pod:container_cpu_usage:sum\x7bpod=~\".*" ++ job ++ ".*\"\x7d[" ++ range ++
    "])) * " ++ factor

def workingSet (job range divisor : String) : String :=
  "sum(avg_over_time(container_memory_working_set_bytes\x7bpod=~\".*" ++ job ++
    ".*\", container=\"\"\x7d[" ++ range ++ "]) / " ++ divisor ++ ")"

def heap (job divisor : String) : String :=
  "sum(go_memstats_heap_inuse_bytes\x7bpod=~\".*" ++ job ++ ".*\"\x7d) / " ++ divisor

def volume (job range divisor : String) : String :=
  "sum(avg_over_time(kubelet_volume_stats_used_bytes\x7bpersistentvolumeclaim=~\".*" ++ job ++
    ".*\"\x7d[" ++ range ++ "]) / " ++ divisor ++ ")"

end Promql

namespace Template

variable {bindings : Bindings} {literal key : List Char}

/-- The placeholder of a name. -/
def slot (key : String) : String := "$\x7b" ++ key ++ "\x7d"

/-- What the placeholder of a name becomes. -/
def filled (bindings : Bindings) (key : String) : String :=
  String.ofList (bindings.fill key.toList)

@[simp] theorem filled_cons (name value : String) (rest : Bindings) (key : String) :
    filled ((name, value) :: rest) key = if name = key then value else filled rest key := by
  unfold filled Bindings.fill
  by_cases h : name = key
  · simp [Bindings.value?, h]
  · simp only [Bindings.value?, String.toList_inj, if_neg h]

theorem expand_plain_append {before : List Char} (h : '$' ∉ before) (after : List Char) :
    expand bindings (before ++ after) = before ++ expand bindings after := by
  induction before with
  | nil => rfl
  | cons c rest ih =>
    rw [List.mem_cons, not_or] at h
    have hhere : ¬∃ more, c :: (rest ++ after) = '$' :: '\x7b' :: more := by
      rintro ⟨more, hmore⟩
      exact h.1 (List.cons.inj hmore).1.symm
    rw [List.cons_append, expand_cons hhere, ih h.2, List.cons_append]

theorem render_literal_append (h : '$' ∉ literal) (rest : String) :
    render ⟨String.ofList literal ++ rest⟩ bindings =
      String.ofList literal ++ render ⟨rest⟩ bindings := by
  apply String.toList_injective
  simp only [render, String.toList_append, String.toList_ofList, expand_plain_append h]

theorem render_slot_append (h : '\x7d' ∉ key) (rest : String) :
    render ⟨slot (String.ofList key) ++ rest⟩ bindings =
      filled bindings (String.ofList key) ++ render ⟨rest⟩ bindings := by
  have htext : (slot (String.ofList key) ++ rest).toList =
      [] ++ '$' :: '\x7b' :: (key ++ '\x7d' :: rest.toList) := by
    simp [slot]
  apply String.toList_injective
  simp only [render, htext, expand_append not_opens_nil, expandKey_append h, filled,
    String.toList_append, String.toList_ofList]
  rfl

end Template

open Template

/-- A text of literals and of the values of names. -/
inductive Form : ((String → String) → String) → Prop
  | literal {chars : List Char} (h : '$' ∉ chars) : Form fun _ => String.ofList chars
  | slot {key : List Char} (h : '\x7d' ∉ key) : Form fun value => value (String.ofList key)
  | append {first second : (String → String) → String} (hfirst : Form first)
      (hsecond : Form second) : Form fun value => first value ++ second value

namespace Form

variable {form : (String → String) → String} {template : Template}

theorem render_append (h : Form form) (bindings : Bindings) (rest : String) :
    render ⟨form Template.slot ++ rest⟩ bindings =
      form (filled bindings) ++ render ⟨rest⟩ bindings := by
  induction h generalizing rest with
  | literal hplain => exact render_literal_append hplain rest
  | slot hkey => exact render_slot_append hkey rest
  | append hfirst hsecond ihfirst ihsecond =>
    rw [String.append_assoc, ihfirst, ihsecond, String.append_assoc]

/-- A template that is a text around placeholders is filled in to that text around their
values. -/
theorem render_eq (h : Form form) (htext : template.text = form Template.slot)
    (bindings : Bindings) : template.render bindings = form (filled bindings) := by
  have hempty : render ⟨""⟩ bindings = "" := rfl
  have hrender := h.render_append bindings ""
  rwa [String.append_empty, ← htext, hempty, String.append_empty] at hrender

end Form

/-! Every template is a PromQL text around its placeholders. The constructors of `Form` take the
text apart into its literals and names. -/

@[simp] theorem requestRateTemplate_render (bindings : Bindings) :
    requestRateTemplate.render bindings =
      Promql.requestRate (filled bindings "job") (filled bindings "route") (filled bindings "code")
        (filled bindings "window") := by
  have hform : Form fun value =>
      Promql.requestRate (value "job") (value "route") (value "code") (value "window") := by
    repeat' constructor
    all_goals decide
  exact hform.render_eq (by decide +kernel) bindings

@[simp] theorem durationSumTemplate_render (bindings : Bindings) :
    durationSumTemplate.render bindings =
      Promql.durationSum (filled bindings "job") (filled bindings "method")
        (filled bindings "route") (filled bindings "code") (filled bindings "window") := by
  have hform : Form fun value =>
      Promql.durationSum (value "job") (value "method") (value "route") (value "code")
        (value "window") := by
    repeat' constructor
    all_goals decide
  exact hform.render_eq (by decide +kernel) bindings

@[simp] theorem durationCountTemplate_render (bindings : Bindings) :
    durationCountTemplate.render bindings =
      Promql.durationCount (filled bindings "job") (filled bindings "method")
        (filled bindings "route") (filled bindings "code") (filled bindings "window")
        (filled bindings "floor") := by
  have hform : Form fun value =>
      Promql.durationCount (value "job") (value "method") (value "route") (value "code")
        (value "window") (value "floor") := by
    repeat' constructor
    all_goals decide
  exact hform.render_eq (by decide +kernel) bindings

@[simp] theorem quotientTemplate_render (bindings : Bindings) :
    quotientTemplate.render bindings =
      Promql.quotient (filled bindings "numerator") (filled bindings "denominator")
        (filled bindings "multiplier") := by
  have hform : Form fun value =>
      Promql.quotient (value "numerator") (value "denominator") (value "multiplier") := by
    repeat' constructor
    all_goals decide
  exact hform.render_eq (by decide +kernel) bindings

@[simp] theorem durationQuantileTemplate_render (bindings : Bindings) :
    durationQuantileTemplate.render bindings =
      Promql.durationQuantile (filled bindings "quantile") (filled bindings "job")
        (filled bindings "method") (filled bindings "route") (filled bindings "code")
        (filled bindings "window") (filled bindings "multiplier") := by
  have hform : Form fun value =>
      Promql.durationQuantile (value "quantile") (value "job") (value "method") (value "route")
        (value "code") (value "window") (value "multiplier") := by
    repeat' constructor
    all_goals decide
  exact hform.render_eq (by decide +kernel) bindings

@[simp] theorem indexRateTemplate_render (bindings : Bindings) :
    indexRateTemplate.render bindings =
      Promql.indexRate (filled bindings "job") (filled bindings "operator")
        (filled bindings "operation") (filled bindings "code") (filled bindings "window") := by
  have hform : Form fun value =>
      Promql.indexRate (value "job") (value "operator") (value "operation") (value "code")
        (value "window") := by
    repeat' constructor
    all_goals decide
  exact hform.render_eq (by decide +kernel) bindings

@[simp] theorem containerCpuTemplate_render (bindings : Bindings) :
    containerCpuTemplate.render bindings =
      Promql.containerCpu (filled bindings "job") (filled bindings "window")
        (filled bindings "multiplier") := by
  have hform : Form fun value =>
      Promql.containerCpu (value "job") (value "window") (value "multiplier") := by
    repeat' constructor
    all_goals decide
  exact hform.render_eq (by decide +kernel) bindings

@[simp] theorem workingSetTemplate_render (bindings : Bindings) :
    workingSetTemplate.render bindings =
      Promql.workingSet (filled bindings "job") (filled bindings "window")
        (filled bindings "divisor") := by
  have hform : Form fun value =>
      Promql.workingSet (value "job") (value "window") (value "divisor") := by
    repeat' constructor
    all_goals decide
  exact hform.render_eq (by decide +kernel) bindings

@[simp] theorem heapTemplate_render (bindings : Bindings) :
    heapTemplate.render bindings =
      Promql.heap (filled bindings "job") (filled bindings "divisor") := by
  have hform : Form fun value => Promql.heap (value "job") (value "divisor") := by
    repeat' constructor
    all_goals decide
  exact hform.render_eq (by decide +kernel) bindings

@[simp] theorem volumeTemplate_render (bindings : Bindings) :
    volumeTemplate.render bindings =
      Promql.volume (filled bindings "job") (filled bindings "window")
        (filled bindings "divisor") := by
  have hform : Form fun value =>
      Promql.volume (value "job") (value "window") (value "divisor") := by
    repeat' constructor
    all_goals decide
  exact hform.render_eq (by decide +kernel) bindings

/-- A decimal without zeros at its end that is so many hundredths. -/
def IsHundredths (count : Nat) (text : String) : Prop :=
  ∃ decimals : List Char,
    text.toList = Nat.toDigits 10 (count / 100) ++ (if decimals = [] then [] else '.' :: decimals) ∧
    (∀ c ∈ decimals, c.isDigit) ∧ decimals.getLast? ≠ some '0' ∧
      Nat.ofDigitChars 10 decimals 0 * 100 = count % 100 * 10 ^ decimals.length

theorem ofDigitChars_digitChar {digit : Nat} (h : digit < 10) (leading : Nat) :
    Nat.ofDigitChars 10 [digit.digitChar] leading = 10 * leading + digit := by
  have hdigit : digit.digitChar.toNat - '0'.toNat = digit := by
    revert digit
    decide
  rw [Nat.ofDigitChars_cons, Nat.ofDigitChars_nil, hdigit]

theorem digitChar_ne_zero {digit : Nat} (h : digit < 10) (hpos : digit ≠ 0) :
    digit.digitChar ≠ '0' := by
  revert digit
  decide

theorem quantileFraction_isHundredths (percentile : Nat) :
    IsHundredths (min percentile 100) (quantileFraction percentile) := by
  unfold quantileFraction
  split
  case isTrue hzero =>
    subst hzero
    exact ⟨[], by decide, List.forall_mem_nil _, by decide, by decide⟩
  case isFalse hzero =>
    split
    case isTrue hfull =>
      rw [Nat.min_eq_right hfull]
      exact ⟨[], by decide, List.forall_mem_nil _, by decide, by decide⟩
    case isFalse hfull =>
      have htens : percentile / 10 < 10 := by omega
      have hones : percentile % 10 < 10 := Nat.mod_lt _ (by decide)
      have hwhole : Nat.toDigits 10 (percentile / 100) = ['0'] := by
        rw [Nat.div_eq_of_lt (Nat.not_le.mp hfull)]
        rfl
      rw [Nat.min_eq_left (Nat.le_of_not_le hfull)]
      split
      case isTrue hround =>
        have htensPos : percentile / 10 ≠ 0 := by omega
        refine ⟨[(percentile / 10).digitChar], ?_, ?_, ?_, ?_⟩
        · simp [hwhole, Nat.toDigits_of_lt_base htens]
        · simpa [Nat.isDigit_digitChar] using htens
        · simpa using digitChar_ne_zero htens htensPos
        · rw [ofDigitChars_digitChar htens]
          simp only [List.length_cons, List.length_nil]
          omega
      case isFalse hround =>
        refine ⟨[(percentile / 10).digitChar, (percentile % 10).digitChar], ?_, ?_, ?_, ?_⟩
        · simp [hwhole, Nat.toDigits_of_lt_base htens, Nat.toDigits_of_lt_base hones]
        · simpa [Nat.isDigit_digitChar] using ⟨htens, hones⟩
        · simpa using digitChar_ne_zero hones hround
        · rw [← List.singleton_append, Nat.ofDigitChars_append, ofDigitChars_digitChar htens,
            ofDigitChars_digitChar hones]
          simp only [List.length_cons, List.length_append, List.length_nil]
          omega

@[simp] theorem repr_secondsToMilliseconds : Factor.secondsToMilliseconds.repr = "1000" := by
  decide

@[simp] theorem repr_coresToMillicores : Factor.coresToMillicores.repr = "1000" := by
  decide

@[simp] theorem repr_bytesToGigabytes : Factor.bytesToGigabytes.repr = "1000000000" := by
  decide

/-- The query of every builder is its PromQL text around the arguments as they are: the window in
duration syntax, the percentile as a decimal fraction of at most one. -/
theorem query_verbatim (name job method route code label : String) (percentile : Nat)
    (operation : Operation) (window : Window) :
    (requestRate name job route code window label).query =
        Promql.requestRate job route code window.text ∧
      (requestDurationAverage name job method route code window label).query =
        Promql.quotient (Promql.durationSum job method route code window.text)
          (Promql.durationCount job method route code window.text "0.01") "1000" ∧
      (∃ fraction, IsHundredths (min percentile 100) fraction ∧
        (requestDurationQuantile name job method route code percentile window label).query =
          Promql.durationQuantile fraction job method route code window.text "1000") ∧
      (indexRequestRate name job operation code window).query =
        Promql.indexRate job (match operation with | .write => "=" | .read => "!=") "index_chunk"
          code window.text ∧
      (containerCpu job window label).query = Promql.containerCpu job window.text "1000" ∧
      (containerWorkingSet job window label).query =
        Promql.workingSet job window.text "1000000000" ∧
      (containerHeap job label).query = Promql.heap job "1000000000" ∧
      (volumeUsed job window label).query = Promql.volume job window.text "1000000000" := by
  refine ⟨?_, ?_, ⟨quantileFraction percentile, quantileFraction_isHundredths percentile, ?_⟩, ?_,
    ?_, ?_, ?_, ?_⟩
  · simp [requestRate]
  · simp [requestDurationAverage, minRequestCount]
  · simp [requestDurationQuantile]
  · cases operation with
    | write => simp [indexRequestRate, Index.chunkOperation]
    | read => simp [indexRequestRate, Index.chunkOperation]
  · simp [containerCpu]
  · simp [containerWorkingSet]
  · simp [containerHeap]
  · simp [volumeUsed]

end BenchReport.Query
