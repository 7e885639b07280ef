import BenchReport.Page.Datum
import BenchReport.Page.Path

/-! Page templates as trees: text, values to show and blocks. -/
namespace BenchReport.Page

/-- What is handed to a helper: a value by its path, a literal value, or what another helper
comes to. -/
inductive Param
  | path (text : String) (path : Path)
  | literal (value : Datum)
  | call (name : String) (params : List Param) (options : List (String × Param))

/-- The call of a helper that opens a block, with the names that the block gives to its values. -/
structure Head where
  name : String
  params : List Param
  options : List (String × Param)
  names : List String

/-- A part of a page. -/
inductive Element
  | text (content : List Char)
  | comment
  | value (target : Param)
  | call (name : String) (params : List Param) (options : List (String × Param))
  | block (head : Head) (body : List Element) (otherwise : Option (List Element))
  | inclusion

/-- A page template. -/
abbrev Template := List Element

/-- What a tag says. -/
inductive Mark
  | value (target : Param)
  | call (name : String) (params : List Param) (options : List (String × Param))
  | opening (head : Head)
  | branch (head : Option Head)
  | closing (name : String)
  | comment
  | inclusion

/-- A tag, and whether the blanks before and after it are dropped. -/
structure Tag where
  mark : Mark
  trimsBefore : Bool
  trimsAfter : Bool

end BenchReport.Page
