import BenchReport.Json.Decoding
import BenchReport.Window

/-! Windows in JSON: their text. -/
namespace BenchReport.Window

open Json

def toJson (w : Window) : Value := .string w.text

def decoder : Decoder Window := fun tree =>
  match Decoder.string tree with
  | .error problem => .error problem
  | .ok text =>
    match parse text with
    | .ok w => .ok w
    | .error e => .error (.refused e.message)

end BenchReport.Window
