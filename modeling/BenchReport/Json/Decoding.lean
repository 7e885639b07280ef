import BenchReport.Json.Printer
import BenchReport.Json.Reader
import BenchReport.Text.Quoted

/-!
Reading typed values from the tree of a JSON text. A reader walks the tree in the order of the
text, and the first problem it meets is the answer.
-/
namespace BenchReport.Json

/-- What stands where another kind of value is wanted. -/
inductive Found
  | null
  | bool (b : Bool)
  | integer (n : Int)
  | real (x : Binary64)
  | string (s : String)
  | sequence
  | map

def ticked (word : String) : String := "\x60" ++ word ++ "\x60"

def Found.text : Found → String
  | .null => "null"
  | .bool b => "boolean " ++ ticked (if b then "true" else "false")
  | .integer n => "integer " ++ ticked (toString n)
  | .real x => "floating point " ++ ticked (String.ofList (numberText x))
  | .string s => "string " ++ Text.quoted s
  | .sequence => "sequence"
  | .map => "map"

/-- Why a JSON text is not read. -/
inductive Problem
  | fault (fault : Fault)
  | wrongKind (found : Found) (expected : String)
  | tooShort (count : Nat) (expected : String)
  | missingField (name : String)
  | duplicateField (name : String)
  | unknownVariant (name : String) (known : List String)
  | refused (reason : String)

/-- Whether a text says where in a file something stands, and no more. -/
def isPosition (text : List Char) : Bool :=
  match " at line ".toList.isPrefixOf? text with
  | none => false
  | some text =>
    match " column ".toList.isPrefixOf? (text.dropWhile Char.isDigit) with
    | none => false
    | some column => isCount (text.takeWhile Char.isDigit) && isCount column
where
  /-- A number of lines or columns, in 64 bits. -/
  isCount (digits : List Char) : Bool :=
    !digits.isEmpty && digits.all Char.isDigit && decide (Numeral.digitsValue digits < Nat.pow 2 64)

def dropPosition : List Char → List Char
  | [] => []
  | c :: rest => if isPosition (c :: rest) then [] else c :: dropPosition rest

/-- The message of a problem; a text that is no JSON has none. Messages tell no position, and a
reason that ends in one loses it. -/
def Problem.message : Problem → String
  | .fault _ => ""
  | .wrongKind found expected => "invalid type: " ++ found.text ++ ", expected " ++ expected
  | .tooShort count expected => "invalid length " ++ toString count ++ ", expected " ++ expected
  | .missingField name => "missing field " ++ ticked name
  | .duplicateField name => "duplicate field " ++ ticked name
  | .unknownVariant name known =>
    "unknown variant " ++ ticked name ++ ", expected one of " ++ ", ".intercalate (known.map ticked)
  | .refused reason => String.ofList (dropPosition reason.toList)

/-- A reader of typed values. -/
abbrev Decoder (α : Type) := Tree → Except Problem α

namespace Tree

/-- The problem of a value that is not of the kind wanted. -/
def mismatch (expected : String) : Tree → Problem
  | .null => .wrongKind .null expected
  | .bool b => .wrongKind (.bool b) expected
  | .integer n => .wrongKind (.integer n) expected
  | .real x => .wrongKind (.real x) expected
  | .string s => .wrongKind (.string s) expected
  | .list _ => .wrongKind .sequence expected
  | .object _ => .wrongKind .map expected
  | .tooLarge | .unpaired => .fault .malformed
  | .broken b => .fault b.read

end Tree

namespace Decoder

/-- A string, under the name that messages give to what is wanted. -/
def stringAs (expected : String) : Decoder String
  | .string s => .ok s
  | tree => .error (tree.mismatch expected)

def string : Decoder String := stringAs "a string"

def path : Decoder String := stringAs "path string"

def bool : Decoder Bool
  | .bool b => .ok b
  | tree => .error (tree.mismatch "a boolean")

/-- A number, as a double. -/
def number : Decoder Binary64
  | .integer n => .ok (Binary64.ofInt n)
  | .real x => .ok x
  | tree => .error (tree.mismatch "f64")

end Decoder

/-- The items of a list, each by the same reader. -/
def Items.decode {α : Type} (decoder : Decoder α) : Items → Except Problem (List α)
  | .close => .ok []
  | .stop b => .error (.fault b.read)
  | .item value rest =>
    match decoder value with
    | .error problem => .error problem
    | .ok x =>
      match rest.decode decoder with
      | .error problem => .error problem
      | .ok xs => .ok (x :: xs)

def Decoder.list {α : Type} (decoder : Decoder α) : Decoder (List α)
  | .list items => items.decode decoder
  | tree => .error (tree.mismatch "a sequence")

/-- A field of a record that is being read into a draft. -/
structure RecordField (δ : Type) where
  name : String
  isSet : δ → Bool
  read : Tree → δ → Except Problem δ

/-- A field that the draft holds as an optional value. -/
def RecordField.ofOption {δ β : Type} (name : String) (decoder : Decoder β)
    (get : δ → Option β) (set : β → δ → δ) : RecordField δ where
  name := name
  isSet draft := (get draft).isSome
  read tree draft :=
    match decoder tree with
    | .error problem => .error problem
    | .ok value => .ok (set value draft)

/-- A record type: its name in messages, its fields in order, the empty draft, and the record of
a draft, or the first field that is missing from it. -/
structure RecordType (δ α : Type) where
  title : String
  fields : List (RecordField δ)
  draft : δ
  finish : δ → Except String α

namespace RecordType

variable {δ α : Type}

/-- Reads members by name. A field may come once; members of other names are passed over. -/
def readMembers (fields : List (RecordField δ)) : Members → δ → Except Problem δ
  | .close, draft => .ok draft
  | .stop b, _ => .error (.fault b.read)
  | .keyless fault _, _ => .error (.fault fault)
  | .member none _ _, _ => .error (.fault .malformed)
  | .member (some key) value rest, draft =>
    match fields.find? fun field => field.name = key with
    | none =>
      match value.skipFault? with
      | some fault => .error (.fault fault)
      | none => readMembers fields rest draft
    | some field =>
      if field.isSet draft then .error (.duplicateField key)
      else
        match field.read value draft with
        | .error problem => .error problem
        | .ok draft => readMembers fields rest draft

/-- Reads items as fields in their order. Fields may be missing at the end, but nothing may follow
the last one. -/
def readItems : List (RecordField δ) → Items → δ → Except Problem δ
  | _, .close, draft => .ok draft
  | _, .stop b, _ => .error (.fault b.read)
  | [], .item _ _, _ => .error (.fault .malformed)
  | field :: fields, .item value rest, draft =>
    match field.read value draft with
    | .error problem => .error problem
    | .ok draft => readItems fields rest draft

/-- A record, given as an object or as the list of its fields. -/
def decode (type : RecordType δ α) : Decoder α
  | .object members =>
    match readMembers type.fields members type.draft with
    | .error problem => .error problem
    | .ok draft =>
      match type.finish draft with
      | .error name => .error (.missingField name)
      | .ok x => .ok x
  | .list items =>
    match readItems type.fields items type.draft with
    | .error problem => .error problem
    | .ok draft =>
      match type.finish draft with
      | .error name =>
        .error (.tooShort (type.fields.findIdx fun field => field.name = name)
          ("struct " ++ type.title ++ " with " ++ toString type.fields.length ++ " elements"))
      | .ok x => .ok x
  | tree => .error (tree.mismatch ("struct " ++ type.title))

end RecordType

def variantIndex? (known : List String) (name : String) : Except Problem Nat :=
  match known.findIdx? (· = name) with
  | some i => .ok i
  | none => .error (.unknownVariant name known)

/-- One of the named variants: its name, or an object with the name as its one key and `null` as
its value. -/
def Decoder.variant (known : List String) : Decoder Nat
  | .string name => variantIndex? known name
  | .broken b => .error (.fault b.read)
  | .object (.stop b) => .error (.fault b.read)
  | .object (.keyless _ value) => .error (value.mismatch "variant identifier")
  | .object (.member (some name) value rest) =>
    match variantIndex? known name with
    | .error problem => .error problem
    | .ok i =>
      match value, rest with
      | .null, .close => .ok i
      | .null, .stop b => .error (.fault b.read)
      | .null, _ => .error (.fault .malformed)
      | value, _ => .error (value.mismatch "unit")
  | _ => .error (.fault .malformed)

/-- Reads a text that holds one value and nothing after it. -/
def decodeText {α : Type} (decoder : Decoder α) (text : String) : Except Problem α :=
  let (tree, rest) := readTree text.toList
  match decoder tree with
  | .error problem => .error problem
  | .ok x =>
    match rest with
    | some rest => if (skipGap rest).isEmpty then .ok x else .error (.fault .malformed)
    | none => .error (.fault .truncated)

end BenchReport.Json
