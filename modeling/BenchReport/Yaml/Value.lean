import BenchReport.Number.Numeral
import BenchReport.Yaml.Node

/-!
The values that YAML nodes stand for. Only plain scalars are looked into; a tag either decides
what a scalar has to be, or is kept with its value.
-/
namespace BenchReport.Yaml

/-- A value. -/
inductive Value
  | null
  | bool (b : Bool)
  | integer (n : Int)
  | real (x : Binary64)
  | text (s : String)
  | sequence (items : List Value)
  | mapping (entries : List (Value × Value))
  | tagged (tag : String) (value : Value)

namespace Value

mutual

/-- Whether two values are the same. The order of the entries of a mapping does not count, and a
number is never the same as one with a point; NaN is the same as itself. -/
def same : Value → Value → Bool
  | .null, .null => true
  | .bool a, .bool b => a == b
  | .integer m, .integer n => m == n
  | .real x, .real y => x.eq y || (x.isNaN && y.isNaN)
  | .text s, .text t => s == t
  | .sequence xs, .sequence ys => sameItems xs ys
  | .mapping xs, .mapping ys => xs.length == ys.length && sameEntries xs ys
  | .tagged s x, .tagged t y => s == t && same x y
  | _, _ => false
termination_by structural value => value

def sameItems : List Value → List Value → Bool
  | [], [] => true
  | x :: xs, y :: ys => same x y && sameItems xs ys
  | _, _ => false
termination_by structural items => items

def sameEntries : List (Value × Value) → List (Value × Value) → Bool
  | [], _ => true
  | (key, x) :: xs, ys => (ys.any fun (other, y) => same key other && same x y) && sameEntries xs ys
termination_by structural entries => entries

end

def untagged : Value → Value
  | tagged _ value => value.untagged
  | value => value

def get? (value : Value) (key : String) : Option Value :=
  match value.untagged with
  | mapping entries =>
    (entries.find? fun (other, _) => match other with
      | .text s => s == key
      | _ => false).map (·.2)
  | _ => none

def text? (value : Value) : Option String :=
  match value.untagged with
  | text s => some s
  | _ => none

end Value

def digitsIn? (base : Nat) (text : List Char) : Option Nat :=
  if text.isEmpty then none
  else
    text.foldlM (fun n c =>
      match Json.hexDigit? c with
      | some d => if d < base then some (n * base + d) else none
      | none => none) 0

def dropSign (text : List Char) : List Char :=
  match text with
  | '+' :: rest | '-' :: rest => rest
  | rest => rest

/-- Digits that begin with a zero and go on are no number. -/
def isPaddedDigits (text : List Char) : Bool :=
  match dropSign text with
  | '0' :: d :: rest => (d :: rest).all Char.isDigit
  | _ => false

/-- The base that a text announces, and the digits after that. -/
def splitBase (text : List Char) : Nat × List Char :=
  match text with
  | '0' :: 'x' :: rest => (16, rest)
  | '0' :: 'o' :: rest => (8, rest)
  | '0' :: 'b' :: rest => (2, rest)
  | rest => (10, rest)

/-- The whole number that a text spells, with an optional sign: decimal digits, or those of
another base after its mark. -/
def integer? (text : List Char) : Option Int :=
  let (isNegative, unsigned) := match text with
    | '+' :: rest => (false, rest)
    | '-' :: rest => (true, rest)
    | rest => (false, rest)
  let (base, digits) := splitBase unsigned
  if isPaddedDigits text then none
  else (digitsIn? base digits).map fun n => if isNegative then -(n : Int) else n

/-- The number with a point or exponent that a text spells. -/
def real? (text : List Char) : Option Binary64 :=
  let unplussed := match text with
    | '+' :: rest => rest
    | rest => rest
  if [".inf", ".Inf", ".INF"].contains (String.ofList unplussed) then some (.infinite false)
  else if ["-.inf", "-.Inf", "-.INF"].contains (String.ofList text) then some (.infinite true)
  else if [".nan", ".NaN", ".NAN"].contains (String.ofList text) then some .nan
  else if unplussed.length < text.length &&
    unplussed.head?.any (fun c => c == '+' || c == '-') then none
  else
    match Binary64.read? unplussed with
    | some x => if x.isFinite then some x else none
    | none => none

/-- Spellings of nothing. -/
def nullWords : List String := ["null", "Null", "NULL", "~"]

def bool? (text : String) : Option Bool :=
  if ["true", "True", "TRUE"].contains text then some true
  else if ["false", "False", "FALSE"].contains text then some false
  else none

/-- Whether a whole number fits 64 bits, with or without a sign. -/
def fitsWord (n : Int) : Bool := -(Nat.pow 2 63 : Int) ≤ n && n < Nat.pow 2 64

/-- Whether a whole number fits 128 bits, with or without a sign. -/
def fitsDoubleWord (n : Int) : Bool := -(Nat.pow 2 127 : Int) ≤ n && n < Nat.pow 2 128

/-- The value of a text as a whole number, if it is one; those that fit only 128 bits are refused,
and larger ones are none. -/
def integerValue? (text : String) : Option (Option Value) :=
  match integer? text.toList with
  | some n =>
    if fitsWord n then some (some (.integer n))
    else if fitsDoubleWord n then some none
    else none
  | none => none

/-- The value of a plain scalar, unless it is refused. -/
def plainValue? (text : String) : Option Value :=
  if text.isEmpty || nullWords.contains text then some .null
  else
    match bool? text with
    | some b => some (.bool b)
    | none =>
      match integerValue? text with
      | some value => value
      | none =>
        if isPaddedDigits text.toList then some (.text text)
        else
          match real? text.toList with
          | some x => some (.real x)
          | none => some (.text text)

def coreTag (name : String) : String := "tag:yaml.org,2002:" ++ name

/-- The value of a scalar whose tag is not kept with it. -/
def scalarValue? (tag : Option String) (isPlain : Bool) (text : String) : Option Value :=
  match tag with
  | none => if isPlain then plainValue? text else some (.text text)
  | some tag =>
    if tag = coreTag "bool" then (bool? text).map .bool
    else if tag = coreTag "int" then (integerValue? text).join
    else if tag = coreTag "float" then (real? text.toList).map .real
    else if tag = coreTag "null" then
      if nullWords.contains text then some .null else none
    else some (.text text)

/-- The part of a tag after its bang, if the tag is kept with its value. -/
def keptTag? (tag : Option String) : Option String :=
  match tag.map String.toList with
  | some ('!' :: rest) => some (String.ofList rest)
  | _ => none

def deepest : Nat := 128

/-- How many aliases may be followed for each event. -/
def aliasesPerEvent : Nat := 100

/-- Puts an entry at the end of others, unless its key is there already. -/
def addEntry? (entries : List (Value × Value)) (key value : Value) :
    Option (List (Value × Value)) :=
  if entries.any fun entry => entry.1.same key then none else some (entries ++ [(key, value)])

/-- The values of nodes in turn, each by the same reader; the count of aliases goes along. -/
def valuesOf? (read : Node → Nat → Option (Value × Nat)) :
    List Node → Nat → Option (List Value × Nat)
  | [], followed => some ([], followed)
  | node :: rest, followed =>
    match read node followed with
    | none => none
    | some (value, followed) =>
      (valuesOf? read rest followed).map fun (values, followed) => (value :: values, followed)

/-- The entries of a mapping in turn, after those given; no key may come twice. -/
def entriesOf? (read : Node → Nat → Option (Value × Nat)) :
    List (Node × Node) → List (Value × Value) → Nat → Option (List (Value × Value) × Nat)
  | [], entries, followed => some (entries, followed)
  | (key, value) :: rest, entries, followed =>
    match read key followed with
    | none => none
    | some (key, followed) =>
      match read value followed with
      | none => none
      | some (value, followed) =>
        match addEntry? entries key value with
        | none => none
        | some entries => entriesOf? read rest entries followed

/-- The node that a node stands for, and how many aliases have been followed then. -/
def follow? (nodes : Nodes) (node : Node) (followed : Nat) : Option (Node × Nat) :=
  match node with
  | .alias anchor =>
    if aliasesPerEvent * nodes.events ≤ followed then none
    else (nodes.target? anchor).map fun node => (node, followed + 1)
  | node => some (node, followed)

/-- Keeps the tag of a node with its value; an empty tag is refused. -/
def tagValue? (tag : Option String) (value : Option (Value × Nat)) : Option (Value × Nat) :=
  match keptTag? tag with
  | none => value
  | some name =>
    if name.isEmpty then none
    else value.map fun (value, followed) => (.tagged name value, followed)

/-- The value of a node, if collections nest only so deep, and how many aliases have been followed
then. -/
def Node.value? (nodes : Nodes) : Nat → Node → Nat → Option (Value × Nat)
  | room, node, followed =>
    match follow? nodes node followed with
    | none => none
    | some (.alias _, _) => none
    | some (.scalar tag isPlain text, followed) =>
      let inner := if (keptTag? tag).isSome then none else tag
      tagValue? tag ((scalarValue? inner isPlain text).map (·, followed))
    | some (.sequence tag items, followed) =>
      match room with
      | 0 => none
      | room + 1 =>
        tagValue? tag ((valuesOf? (Node.value? nodes room) items followed).map
          fun (values, followed) => (.sequence values, followed))
    | some (.mapping tag entries, followed) =>
      match room with
      | 0 => none
      | room + 1 =>
        tagValue? tag ((entriesOf? (Node.value? nodes room) entries [] followed).map
          fun (entries, followed) => (.mapping entries, followed))
termination_by structural room => room

/-- The value of a document; one without a node is null. -/
def Document.value? (document : Document) : Option Value :=
  match document.root with
  | none => some .null
  | some node => (node.value? document.nodes deepest 0).map (·.1)

def parse? (text : String) : Option Value :=
  ((tokens? text.toList).bind Document.ofTokens?).bind Document.value?

end BenchReport.Yaml
