import BenchReport.Number.Binary64

/-! JSON values to be written. -/
namespace BenchReport.Json

/-- A JSON value; the members of an object are in the order in which they are written. -/
inductive Value
  | null
  | bool (b : Bool)
  | number (x : Binary64)
  | string (s : String)
  | list (items : List Value)
  | object (members : List (String × Value))

namespace Value

def strings (texts : List String) : Value := list (texts.map string)

end Value

end BenchReport.Json
