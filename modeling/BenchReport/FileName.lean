/-! File names made from measurement names: one safe path component each. -/
namespace BenchReport.FileName

/-- The name of a measurement whose own name leaves nothing. -/
def fallback : String := "measurement"

/-- What a character becomes: a separator turns into a dash, ASCII letters, digits, dashes and
points stay, and all else is dropped. -/
def safeChar? (c : Char) : Option Char :=
  if c = ' ' ∨ c = '&' ∨ c = '_' ∨ c = '=' ∨ c = '+' ∨ c = ':' then some '-'
  else if c.isAlphanum ∨ c = '-' ∨ c = '.' then some c
  else none

def squeezeDashes : List Char → List Char
  | [] => []
  | c :: rest =>
    if c = '-' ∧ rest.head? = some '-' then squeezeDashes rest else c :: squeezeDashes rest

/-- The safe characters of a name, without points at its start. -/
def safeChars (name : List Char) : List Char :=
  (squeezeDashes (name.filterMap safeChar?)).dropWhile (· == '.')

/-- The file name, less its extension, of a measurement. -/
def baseName (name : String) : String :=
  let safe := safeChars name.toList
  if safe = [] ∨ safe = ['-'] then fallback else String.ofList safe

end BenchReport.FileName
