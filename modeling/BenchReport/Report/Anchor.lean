import BenchReport.Text.Alphanumeric

/-! Anchors of headings: the names by which links reach them. -/
namespace BenchReport.Report

/-- What a character of a heading becomes in its anchor: a space turns into a dash, letters,
numbers, dashes and underscores stay, and all else is dropped. Only ASCII letters are lowered. -/
def anchorChar? (c : Char) : Option Char :=
  if c = ' ' then some '-'
  else if Text.isAlphanumeric c || c == '-' || c == '_' then some c.toLower
  else none

def anchor (heading : String) : String := String.ofList (heading.toList.filterMap anchorChar?)

end BenchReport.Report
