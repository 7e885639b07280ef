import BenchReport.Json.Reader
import BenchReport.Page.Syntax

/-!
Reading the tags of a page template, from after their two opening braces to after the closing
ones. Blanks may stand between the parts of a tag.
-/
namespace BenchReport.Page

open Json (isGap skipGap)

/-- A part read from the start of a text, and the text after it. -/
abbrev Read (α : Type) := Option (α × List Char)

/-- The text after blanks and a word that has to stand here. -/
def word? (word text : List Char) : Option (List Char) := dropWord? word (skipGap text)

/-- The text after a word, if it stands here, and whether it does. -/
def mark (word text : List Char) : Bool × List Char :=
  match word? word text with
  | some rest => (true, rest)
  | none => (false, text)

def literal? (text : List Char) : Option Datum :=
  match Json.readTree text with
  | (.null, some []) => some .null
  | (.bool b, some []) => some (.bool b)
  | (.integer n, some []) => some (.integer n)
  | (.real x, some []) => some (.real x)
  | (.string s, some []) => some (.text s)
  | _ => none

/-- How many characters a string takes after its opening quote, with the closing one; a quote may
stand after a backslash. -/
def quotedLength? (quote : Char) : List Char → Option Nat
  | [] => none
  | '\\' :: c :: rest =>
    if c = quote then (quotedLength? quote rest).map (· + 2)
    else (quotedLength? quote (c :: rest)).map (· + 1)
  | c :: rest => if c = quote then some 1 else (quotedLength? quote rest).map (· + 1)

/-- The text between single quotes as JSON: a single quote loses its backslash, and a double quote
gets one. -/
def requoted : List Char → List Char
  | [] => []
  | '\\' :: '\'' :: rest => '\'' :: requoted rest
  | '"' :: rest => '\\' :: '"' :: requoted rest
  | c :: rest => c :: requoted rest

/-- How many characters a number takes, if no name goes on there. -/
def numberLength? (text : List Char) : Option Nat :=
  let unsigned := (dropWord? ['-'] text).getD text
  let afterWhole := unsigned.dropWhile Char.isDigit
  let afterPoint := ((dropWord? ['.'] afterWhole).getD afterWhole).dropWhile Char.isDigit
  let rest :=
    match dropWord? ['E'] afterPoint with
    | none => afterPoint
    | some power =>
      let digits := (dropWord? ['-'] power).getD power
      if (digits.takeWhile Char.isDigit).isEmpty then afterPoint
      else digits.dropWhile Char.isDigit
  if (unsigned.takeWhile Char.isDigit).isEmpty || rest.head?.any isNameChar then none
  else some (text.length - rest.length)

/-- The length of the literal at the start of a text. -/
def literalLength? (text : List Char) : Option Nat :=
  match text with
  | '"' :: rest => (quotedLength? '"' rest).map (· + 1)
  | '\'' :: rest => (quotedLength? '\'' rest).map (· + 1)
  | text =>
    match numberLength? text with
    | some length => some length
    | none =>
      (["null".toList, "true".toList, "false".toList].find? fun word =>
        match dropWord? word text with
        | some rest => !rest.head?.any isNameChar
        | none => false).map List.length

def literalValue? (text : List Char) : Option Datum :=
  match text with
  | '\'' :: rest => literal? ('"' :: (requoted rest.dropLast ++ ['"']))
  | text => literal? text

def isReserved (text : List Char) : Bool :=
  ["as".toList, "else".toList].any fun word =>
    match dropWord? word text with
    | some rest => !(skipGap rest).head?.any isNameChar
    | none => false

mutual

/-- A parameter: a literal, a path, or a call in parentheses. -/
def readParam? : Nat → List Char → Read Param
  | 0, _ => none
  | fuel + 1, text =>
    let text := skipGap text
    if isReserved text then none
    else
      match literalLength? text with
      | some length =>
        (literalValue? (text.take length)).map fun value => (.literal value, text.drop length)
      | none =>
        match text with
        | '(' :: rest => readCall? fuel rest
        | text =>
          (Path.read? text).map fun (path, rest) =>
            (.path (String.ofList (text.take (text.length - rest.length))) path, rest)
termination_by structural fuel => fuel

/-- Parameters and options up to something else, after the ones given backwards. -/
def readParams : Nat → List Param → List (String × Param) → List Char →
    List Param × List (String × Param) × List Char
  | 0, params, options, text => (params.reverse, options.reverse, text)
  | fuel + 1, params, options, text =>
    match readOption? fuel text with
    | some (option, rest) => readParams fuel params (option :: options) rest
    | none =>
      match readParam? fuel text with
      | some (param, rest) => readParams fuel (param :: params) options rest
      | none => (params.reverse, options.reverse, text)
termination_by structural fuel => fuel

def readOption? : Nat → List Char → Read (String × Param)
  | 0, _ => none
  | fuel + 1, text =>
    match readName? (skipGap text) with
    | none => none
    | some (name, rest) =>
      match word? ['='] rest with
      | none => none
      | some rest => (readParam? fuel rest).map fun (param, rest) => ((name, param), rest)
termination_by structural fuel => fuel

def readCall? : Nat → List Char → Read Param
  | 0, _ => none
  | fuel + 1, text =>
    let withParams : Read Param :=
      match readName? (skipGap text) with
      | none => none
      | some (name, rest) =>
        let (params, options, rest) := readParams fuel [] [] rest
        if params.isEmpty && options.isEmpty then none else some (.call name params options, rest)
    let call : Read Param :=
      match withParams with
      | some call => some call
      | none =>
        let text := skipGap text
        (Path.read? text).map fun (_, rest) =>
          (.call (String.ofList (text.take (text.length - rest.length))) [] [], rest)
    match call with
    | none => none
    | some (call, rest) => (word? [')'] rest).map (call, ·)
termination_by structural fuel => fuel

end

/-- Enough fuel for the parameters in a text. -/
def paramFuel (text : List Char) : Nat := 4 * text.length + 4

/-- The names of a block: one or two between bars, after `as`. -/
def readNames (text : List Char) : List String × List Char :=
  let names : Option (List String × List Char) := do
    let rest ← word? "as".toList text
    let rest ← word? ['|'] rest
    let (first, rest) ← readName? (skipGap rest)
    match readName? (skipGap rest) with
    | some (second, rest) => (word? ['|'] rest).map ([first, second], ·)
    | none => (word? ['|'] rest).map ([first], ·)
  names.getD ([], text)

def readHead? (text : List Char) : Read Head :=
  (readName? (skipGap text)).map fun (name, rest) =>
    let (params, options, rest) := readParams (paramFuel rest) [] [] rest
    let (names, rest) := readNames rest
    (⟨name, params, options, names⟩, rest)

/-- A value to show: a path, or a call in parentheses. -/
def readValue? (text : List Char) : Read Mark :=
  let text := skipGap text
  match text with
  | '(' :: rest => (readCall? (paramFuel rest) rest).map fun (target, rest) => (.value target, rest)
  | text =>
    (Path.read? text).map fun (path, rest) =>
      (.value (.path (String.ofList (text.take (text.length - rest.length))) path), rest)

/-- A call with parameters, or a value to show. -/
def readExpression? (text : List Char) : Read Mark :=
  let call : Read Mark :=
    match readName? (skipGap text) with
    | none => none
    | some (name, rest) =>
      let (params, options, rest) := readParams (paramFuel rest) [] [] rest
      if params.isEmpty && options.isEmpty then none else some (.call name params options, rest)
  match call with
  | some call => some call
  | none => readValue? text

/-- The name of another page: letters, digits, points and slashes, or a value. -/
def readInclusion? (text : List Char) : Read Mark :=
  let text := skipGap text
  let isPageChar (c : Char) := isNameChar c || c == '.' || c == '/'
  let rest : Option (List Char) :=
    if (text.takeWhile isPageChar).isEmpty then (readValue? text).map (·.2)
    else some (text.dropWhile isPageChar)
  rest.map fun rest =>
    let (_, _, rest) := readParams (paramFuel rest) [] [] rest
    (.inclusion, rest)

/-- A tag of which the mark is read in one way: an optional tilde, the mark, an optional tilde and
the closing braces. -/
def readMarked? (opening : List Char) (read? : List Char → Read Mark) (closing text : List Char) :
    Option (Tag × List Char) := do
  let (trimsBefore, rest) := mark ['~'] text
  let rest ← word? opening rest
  let (content, rest) ← read? rest
  let (trimsAfter, rest) := mark ['~'] rest
  let rest ← word? closing rest
  some (⟨content, trimsBefore, trimsAfter⟩, rest)

def closingBraces : List Char := ['\x7d', '\x7d']

def readBranch? (text : List Char) : Read Tag :=
  let plain (rest : List Char) : Read Mark := some (.branch none, rest)
  let chained (rest : List Char) : Read Mark :=
    (readHead? rest).map fun (head, rest) => (.branch (some head), rest)
  [("else".toList, plain), (['^'], plain), ("else".toList, chained), (['^'], chained)].findSome?
    fun (opening, read?) => readMarked? opening read? closingBraces text

/-- The text after the first place where a word stands. -/
def afterWord? (word : List Char) : List Char → Option (List Char)
  | [] => none
  | c :: rest =>
    match dropWord? word (c :: rest) with
    | some after => some after
    | none => afterWord? word rest

/-- The text after a comment. One that begins with two dashes ends with two, if it ends so at
all. -/
def readComment? (text : List Char) : Option (List Char) :=
  match dropWord? ['!', '-', '-'] text with
  | some rest =>
    match afterWord? ('-' :: '-' :: closingBraces) rest with
    | some after => some after
    | none => afterWord? closingBraces ('-' :: '-' :: rest)
  | none => (dropWord? ['!'] text).bind (afterWord? closingBraces)

/-- A value that is marked as raw text by a third brace. -/
def readTripled? (text : List Char) : Read Tag :=
  match dropWord? ['\x7b'] text with
  | some rest => readMarked? [] readExpression? ('\x7d' :: closingBraces) rest
  | none => none

/-- A value that is marked as raw text by a brace inside the tildes. -/
def readBraced? (text : List Char) : Read Tag :=
  let braced (rest : List Char) : Read Mark :=
    match readExpression? rest with
    | some (content, rest) => (word? ['\x7d'] rest).map (content, ·)
    | none => none
  readMarked? ['\x7b'] braced closingBraces text

def readTag? (text : List Char) : Read Tag :=
  let closingName (rest : List Char) : Read Mark :=
    (readName? (skipGap rest)).map fun (name, rest) => (.closing name, rest)
  let opening (rest : List Char) : Read Mark :=
    (readHead? rest).map fun (head, rest) => (.opening head, rest)
  match readComment? text with
  | some rest => some (⟨.comment, false, false⟩, rest)
  | none =>
    [readBranch?, readMarked? [] readExpression? closingBraces, readTripled?, readBraced?,
      readMarked? ['&'] readValue? closingBraces, readMarked? ['#'] opening closingBraces,
      readMarked? ['/'] closingName closingBraces,
      readMarked? ['>'] readInclusion? closingBraces].findSome? fun read? => read? text

end BenchReport.Page
