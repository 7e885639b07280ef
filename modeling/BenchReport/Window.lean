import BenchReport.Text.Quoted

/-!
Range-vector windows and their duration syntax: numbers with units from years down to
milliseconds, `1h30m`. Years and weeks are written only where they divide the length exactly.
-/
namespace BenchReport

/-- A length of time, below `2 ^ 64` seconds. -/
structure Window where
  nanos : Nat
  nanos_lt : nanos < Nat.pow 2 64 * Nat.pow 10 9
  deriving DecidableEq

namespace Window

/-- The largest number of milliseconds that the syntax can name. -/
def maxMillis : Nat := Nat.pow 2 64 - 1

/-- A window of so many milliseconds, `maxMillis` at most. -/
def ofMillis (count : Nat) : Window where
  nanos := min count maxMillis * Nat.pow 10 6
  nanos_lt := by simp only [maxMillis, Nat.pow_eq]; omega

def ofSeconds (seconds : UInt64) (nanos : Fin (Nat.pow 10 9)) : Window where
  nanos := seconds.toNat * Nat.pow 10 9 + nanos
  nanos_lt := by
    have hseconds := seconds.toNat_lt
    have hnanos := nanos.isLt
    simp only [Nat.pow_eq] at hnanos ⊢
    omega

/-- A window of so many minutes. -/
def ofMinutes (count : Nat) (h : count * 60 < Nat.pow 2 64 := by decide) : Window where
  nanos := count * 60 * Nat.pow 10 9
  nanos_lt := by simp only [Nat.pow_eq] at h ⊢; omega

def seconds (w : Window) : Nat := w.nanos / Nat.pow 10 9

/-- Nanoseconds beyond the whole seconds. -/
def subsecond (w : Window) : Nat := w.nanos % Nat.pow 10 9

/-- Whole milliseconds, capped at `maxMillis`. -/
def millis (w : Window) : Nat := min (w.nanos / Nat.pow 10 6) maxMillis

theorem millis_le (w : Window) : w.millis ≤ maxMillis := Nat.min_le_right ..

@[simp] theorem millis_ofMillis (count : Nat) : (ofMillis count).millis = min count maxMillis := by
  simp only [millis, ofMillis, Nat.pow_eq]; omega

/-- Units of the duration syntax, largest first. -/
inductive Scale
  | year | week | day | hour | minute | second | milli
  deriving DecidableEq

namespace Scale

/-- All units, largest first. -/
def all : List Scale := [year, week, day, hour, minute, second, milli]

def symbol : Scale → List Char
  | year => ['y']
  | week => ['w']
  | day => ['d']
  | hour => ['h']
  | minute => ['m']
  | second => ['s']
  | milli => ['m', 's']

def millis : Scale → Nat
  | year => 365 * 24 * 60 * 60 * 1000
  | week => 7 * 24 * 60 * 60 * 1000
  | day => 24 * 60 * 60 * 1000
  | hour => 60 * 60 * 1000
  | minute => 60 * 1000
  | second => 1000
  | milli => 1

/-- Units that are written only where they divide the length exactly. -/
def exactOnly : Scale → Bool
  | year | week => true
  | _ => false

theorem millis_pos (u : Scale) : 0 < u.millis := by cases u <;> decide

end Scale

/-- The numbers and units written for a length, over the units that may still be used. -/
def components : List Scale → Nat → List (Nat × Scale)
  | [], _ => []
  | u :: units, count =>
    if u.exactOnly && count % u.millis != 0 then components units count
    else if count / u.millis = 0 then components units count
    else (count / u.millis, u) :: components units (count % u.millis)

def componentText (part : Nat × Scale) : List Char :=
  Nat.toDigits 10 part.1 ++ part.2.symbol

def millisText (count : Nat) : List Char :=
  if count = 0 then ['0', 's'] else (components Scale.all count).flatMap componentText

/-- The window in duration syntax, to the whole millisecond. -/
def text (w : Window) : String := String.ofList (millisText w.millis)

instance : ToString Window := ⟨text⟩

/-- Why a text is no duration. -/
inductive Failure
  | invalid | overflow
  deriving DecidableEq

/-- Why a text is no duration, with the text. -/
inductive Error
  | empty
  | invalid (text : String)
  | overflow (text : String)
  deriving DecidableEq

def Error.message : Error → String
  | .empty => "empty duration string"
  | .invalid text => "not a valid duration string: " ++ Text.quoted text
  | .overflow text => "duration out of range: " ++ Text.quoted text

/-- The number and the letters that a text begins with, and what follows them. -/
def splitComponent (text : List Char) : Except Failure (Nat × List Char × List Char) :=
  let digits := text.takeWhile Char.isDigit
  let afterDigits := text.dropWhile Char.isDigit
  let count := Nat.ofDigitChars 10 digits 0
  if digits.isEmpty then .error .invalid
  else if maxMillis < count then .error .overflow
  else .ok (count, afterDigits.takeWhile Char.isAlpha, afterDigits.dropWhile Char.isAlpha)

/-- Milliseconds of the components of a text, added to those found before it. The units still
allowed are given: each appears at most once, largest first. -/
def readComponents : List Scale → Nat → List Char → Except Failure Nat
  | _, sum, [] => .ok sum
  | [], _, text =>
    match splitComponent text with
    | .error failure => .error failure
    | .ok _ => .error .invalid
  | u :: units, sum, text =>
    match splitComponent text with
    | .error failure => .error failure
    | .ok (count, letters, rest) =>
      if letters = u.symbol then
        if maxMillis < count * u.millis then .error .overflow
        else if maxMillis < sum + count * u.millis then .error .overflow
        else readComponents units (sum + count * u.millis) rest
      else readComponents units sum text

/-- Reads duration syntax; a bare `0` needs no unit. -/
def parse (text : String) : Except Error Window :=
  if text.isEmpty then .error .empty
  else if text = "0" then .ok (ofMillis 0)
  else
    match readComponents Scale.all 0 text.toList with
    | .ok count => .ok (ofMillis count)
    | .error .invalid => .error (.invalid text)
    | .error .overflow => .error (.overflow text)

def sort (windows : List Window) : List Window :=
  windows.mergeSort fun a b => a.nanos ≤ b.nanos

end Window

end BenchReport
