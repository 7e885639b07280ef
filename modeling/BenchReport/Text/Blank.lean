/-! Blank characters: the Unicode property White_Space. -/
namespace BenchReport.Text

/-- A character with the property White_Space. -/
def isBlank (c : Char) : Bool :=
  let point := c.toNat
  (9 ≤ point && point ≤ 13) || point == 32 || point == 0x85 || point == 0xA0 || point == 0x1680 ||
    (0x2000 ≤ point && point ≤ 0x200A) || point == 0x2028 || point == 0x2029 ||
    point == 0x202F || point == 0x205F || point == 0x3000

def trimStart (text : List Char) : List Char := text.dropWhile isBlank

/-- The text without the characters of the class at its end. -/
def dropEndWhile (inClass : Char → Bool) (text : List Char) : List Char :=
  (text.reverse.dropWhile inClass).reverse

def trimEnd (text : List Char) : List Char := dropEndWhile isBlank text

end BenchReport.Text
