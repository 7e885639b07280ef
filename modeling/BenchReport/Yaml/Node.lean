import BenchReport.Yaml.Token

/-! The nodes that YAML tokens make up: scalars, sequences, mappings, and aliases of others. -/
namespace BenchReport.Yaml

/-- A node with its tag. An alias points to the node of an anchor. -/
inductive Node
  | alias (anchor : Nat)
  | scalar (tag : Option String) (isPlain : Bool) (text : String)
  | sequence (tag : Option String) (items : List Node)
  | mapping (tag : Option String) (entries : List (Node × Node))

/-- What is known beside the tokens while nodes are made: the handles of tags, the number of each
anchor by its name, the place that each number stands for, the anchored nodes by their place, and
how many events there were. A scalar or alias is one event, a collection has one at each end. -/
structure Nodes where
  handles : List (String × String)
  anchors : List (String × Nat)
  places : List (Nat × Nat)
  anchored : List (Nat × Node)
  events : Nat

namespace Nodes

def standardHandles : List (String × String) := [("!", "!"), ("!!", "tag:yaml.org,2002:")]

def ofHandles (handles : List (String × String)) : Nodes :=
  ⟨handles ++ standardHandles, [], [], [], 0⟩

def count (s : Nodes) (events : Nat) : Nodes := { s with events := s.events + events }

/-- Notes that a node with an anchor begins here. Its number is how many names have been used. -/
def noteAnchor (s : Nodes) (anchor : Option String) : Nodes :=
  match anchor with
  | none => s
  | some name =>
    let number := s.anchors.length
    { s with
      anchors := (name, number) :: s.anchors.filter fun entry => entry.1 ≠ name
      places := (number, s.events) :: s.places }

/-- Notes the node with an anchor that began at a place. -/
def noteNode (s : Nodes) (anchor : Option String) (place : Nat) (node : Node) : Nodes :=
  match anchor with
  | none => s
  | some _ => { s with anchored := (place, node) :: s.anchored }

/-- The node that an alias stands for, once all nodes are made. -/
def target? (s : Nodes) (anchor : Nat) : Option Node :=
  (s.places.lookup anchor).bind fun place => s.anchored.lookup place

end Nodes

/-- What stands before a node: its anchor and its tag. -/
structure Properties where
  anchor : Option String
  tag : Option (String × String)

/-- The properties at the start of tokens, in either order. -/
def readProperties : List Token → Properties × List Token
  | .anchor name :: .tag handle suffix :: rest => (⟨some name, some (handle, suffix)⟩, rest)
  | .tag handle suffix :: .anchor name :: rest => (⟨some name, some (handle, suffix)⟩, rest)
  | .anchor name :: rest => (⟨some name, none⟩, rest)
  | .tag handle suffix :: rest => (⟨none, some (handle, suffix)⟩, rest)
  | rest => (⟨none, none⟩, rest)

/-- The whole tag; a handle has to be known. -/
def wholeTag? (s : Nodes) : Option (String × String) → Option (Option String)
  | none => some none
  | some (handle, suffix) =>
    if handle.isEmpty then some (some suffix)
    else (s.handles.lookup handle).map fun start => some (start ++ suffix)

/-- Something made of tokens, the tokens after it, and what is known then. -/
abbrev Made (α : Type) := Option (α × List Token × Nodes)

def emptyNode : Node := .scalar none true ""

/-- A node without content, made here. -/
def makeEmpty (tokens : List Token) (s : Nodes) : Made Node := some (emptyNode, tokens, s.count 1)

/-- Whether an entry of a block sequence is left out. -/
def endsEntry : List Token → Bool
  | .entry :: _ | .blockEnd :: _ => true
  | _ => false

/-- Whether an entry of a sequence that is not indented is left out. -/
def endsPlainEntry : List Token → Bool
  | .entry :: _ | .key :: _ | .value :: _ | .blockEnd :: _ => true
  | _ => false

/-- Whether a key or value of a block mapping is left out. -/
def endsBlockPart : List Token → Bool
  | .key :: _ | .value :: _ | .blockEnd :: _ => true
  | _ => false

/-- Whether the key of a flow collection is left out before one of these. -/
def endsFlowKey (closing : Token) : List Token → Bool
  | .value :: _ | .flowEntry :: _ => true
  | token :: _ => token = closing
  | [] => false

/-- Whether the value of a flow collection is left out before one of these. -/
def endsFlowValue (closing : Token) : List Token → Bool
  | .flowEntry :: _ => true
  | token :: _ => token = closing
  | [] => false

/-- The tokens of a flow collection after the comma that every part but the first needs; none is
needed before the end. -/
def afterComma? (isFirst : Bool) (closing : Token) : List Token → Option (List Token)
  | .flowEntry :: rest => if isFirst then some (.flowEntry :: rest) else some rest
  | token :: rest => if isFirst || token = closing then some (token :: rest) else none
  | [] => none

mutual

/-- A node. Block collections are taken only inside blocks, and a sequence without indentation
only as a part of a mapping. -/
def makeNode? (inBlock unindented : Bool) : Nat → List Token → Nodes → Made Node
  | 0, _, _ => none
  | _ + 1, .alias name :: rest, s =>
    (s.anchors.lookup name).map fun anchor => (.alias anchor, rest, s.count 1)
  | fuel + 1, tokens, s =>
    let (properties, tokens) := readProperties tokens
    match wholeTag? s properties.tag with
    | none => none
    | some tag =>
      let place := s.events
      let s := s.noteAnchor properties.anchor
      let collection (made : Made Node) : Made Node :=
        made.map fun (node, rest, s) => (node, rest, s.noteNode properties.anchor place node)
      let sequence (made : Made (List Node)) : Made Node :=
        collection (made.map fun (items, rest, s) => (.sequence tag items, rest, s.count 1))
      let mapping (made : Made (List (Node × Node))) : Made Node :=
        collection (made.map fun (entries, rest, s) => (.mapping tag entries, rest, s.count 1))
      match tokens with
      | .scalar isPlain text :: rest =>
        let tag := if tag = some "!" then none else tag
        collection (some (.scalar tag isPlain text, rest, s.count 1))
      | .flowSequence :: rest => sequence (makeFlowItems? fuel true rest (s.count 1))
      | .flowMapping :: rest => mapping (makeFlowEntries? fuel true rest (s.count 1))
      | .blockSequence :: rest =>
        if inBlock then sequence (makeItems? fuel rest (s.count 1)) else none
      | .blockMapping :: rest =>
        if inBlock then mapping (makeEntries? fuel rest (s.count 1)) else none
      | tokens =>
        match unindented, tokens with
        | true, .entry :: _ => sequence (makePlainItems? fuel tokens (s.count 1))
        | _, _ =>
          if properties.anchor.isSome || properties.tag.isSome then
            collection (some (.scalar tag true "", tokens, s.count 1))
          else none
termination_by structural fuel => fuel

def makeItems? : Nat → List Token → Nodes → Made (List Node)
  | 0, _, _ => none
  | _ + 1, .blockEnd :: rest, s => some ([], rest, s)
  | fuel + 1, .entry :: rest, s =>
    match if endsEntry rest then makeEmpty rest s else makeNode? true false fuel rest s with
    | none => none
    | some (item, rest, s) =>
      (makeItems? fuel rest s).map fun (items, rest, s) => (item :: items, rest, s)
  | _ + 1, _, _ => none
termination_by structural fuel => fuel

/-- The items of a block sequence that is no further indented than the mapping around it. -/
def makePlainItems? : Nat → List Token → Nodes → Made (List Node)
  | 0, _, _ => none
  | fuel + 1, .entry :: rest, s =>
    match if endsPlainEntry rest then makeEmpty rest s else makeNode? true false fuel rest s with
    | none => none
    | some (item, rest, s) =>
      (makePlainItems? fuel rest s).map fun (items, rest, s) => (item :: items, rest, s)
  | _ + 1, tokens, s => some ([], tokens, s)
termination_by structural fuel => fuel

/-- The entries of a block mapping. A value may come without its key, and a key without its
value. -/
def makeEntries? : Nat → List Token → Nodes → Made (List (Node × Node))
  | 0, _, _ => none
  | _ + 1, .blockEnd :: rest, s => some ([], rest, s)
  | fuel + 1, .key :: rest, s =>
    match if endsBlockPart rest then makeEmpty rest s else makeNode? true true fuel rest s with
    | none => none
    | some (key, rest, s) => makeBlockValue? fuel key rest s
  | _ + 1, _, _ => none
termination_by structural fuel => fuel

/-- The value of a key in a block mapping, and the entries after it. -/
def makeBlockValue? : Nat → Node → List Token → Nodes → Made (List (Node × Node))
  | 0, _, _, _ => none
  | fuel + 1, key, tokens, s =>
    let value :=
      match tokens with
      | .value :: rest =>
        if endsBlockPart rest then makeEmpty rest s else makeNode? true true fuel rest s
      | tokens => makeEmpty tokens s
    match value with
    | none => none
    | some (value, rest, s) =>
      (makeEntries? fuel rest s).map fun (entries, rest, s) => ((key, value) :: entries, rest, s)
termination_by structural fuel => fuel

/-- The items of a flow sequence. An item may be a single pair. -/
def makeFlowItems? : Nat → Bool → List Token → Nodes → Made (List Node)
  | 0, _, _, _ => none
  | fuel + 1, isFirst, tokens, s =>
    match afterComma? isFirst .flowSequenceEnd tokens with
    | none => none
    | some (.flowSequenceEnd :: rest) => some ([], rest, s)
    | some tokens =>
      let item : Made Node :=
        match tokens with
        | .key :: rest =>
          (makePair? fuel .flowSequenceEnd rest (s.count 1)).map fun (pair, rest, s) =>
            (.mapping none [pair], rest, s.count 1)
        | tokens => makeNode? false false fuel tokens s
      match item with
      | none => none
      | some (item, rest, s) =>
        (makeFlowItems? fuel false rest s).map fun (items, rest, s) => (item :: items, rest, s)
termination_by structural fuel => fuel

/-- A pair of a flow collection, after the mark of its key. Where the key of a single pair in a
sequence is left out, the token after its mark is passed over. -/
def makePair? : Nat → Token → List Token → Nodes → Made (Node × Node)
  | 0, _, _, _ => none
  | fuel + 1, closing, tokens, s =>
    let key :=
      if endsFlowKey closing tokens then
        makeEmpty (if closing = .flowSequenceEnd then tokens.tail else tokens) s
      else makeNode? false false fuel tokens s
    match key with
    | none => none
    | some (key, rest, s) =>
      let value :=
        match rest with
        | .value :: rest =>
          if endsFlowValue closing rest then makeEmpty rest s
          else makeNode? false false fuel rest s
        | rest => makeEmpty rest s
      value.map fun (value, rest, s) => ((key, value), rest, s)
termination_by structural fuel => fuel

/-- The entries of a flow mapping. A key without its mark has no value. -/
def makeFlowEntries? : Nat → Bool → List Token → Nodes → Made (List (Node × Node))
  | 0, _, _, _ => none
  | fuel + 1, isFirst, tokens, s =>
    match afterComma? isFirst .flowMappingEnd tokens with
    | none => none
    | some (.flowMappingEnd :: rest) => some ([], rest, s)
    | some tokens =>
      let entry : Made (Node × Node) :=
        match tokens with
        | .key :: rest => makePair? fuel .flowMappingEnd rest s
        | tokens =>
          (makeNode? false false fuel tokens s).map fun (key, rest, s) =>
            ((key, emptyNode), rest, s.count 1)
      match entry with
      | none => none
      | some (entry, rest, s) =>
        (makeFlowEntries? fuel false rest s).map fun (entries, rest, s) =>
          (entry :: entries, rest, s)
termination_by structural fuel => fuel

end

/-- A document: its node, if it has one, and what its aliases stand for. -/
structure Document where
  root : Option Node
  nodes : Nodes

namespace Document

/-- The handles of the directives before a document, and the tokens after them. The version may be
given once, and each handle once. -/
def readDirectives? (hasVersion : Bool) (handles : List (String × String)) :
    List Token → Option (List (String × String) × List Token)
  | .version major minor :: rest =>
    if !hasVersion && major == 1 && (minor == 1 || minor == 2) then
      readDirectives? true handles rest
    else none
  | .handle name start :: rest =>
    if (handles.lookup name).isSome then none
    else readDirectives? hasVersion ((name, start) :: handles) rest
  | tokens => some (handles, tokens)

/-- Whether a document that begins with a mark is empty. -/
def isEmpty : List Token → Bool
  | [] | .version _ _ :: _ | .handle _ _ :: _ | .documentStart :: _ | .documentEnd :: _ => true
  | _ => false

def ofTokens? (tokens : List Token) : Option Document :=
  let made : Made (Option Node) :=
    match readDirectives? false [] tokens with
    | none => none
    | some (handles, rest) =>
      let s := Nodes.ofHandles handles
      let fuel := 4 * tokens.length + 4
      match rest with
      | .documentStart :: rest =>
        if isEmpty rest then some (some emptyNode, rest, s.count 1)
        else (makeNode? true false fuel rest s).map fun (node, rest, s) => (some node, rest, s)
      | rest =>
        if tokens.isEmpty then some (none, [], s)
        else if rest.length < tokens.length then none
        else (makeNode? true false fuel rest s).map fun (node, rest, s) => (some node, rest, s)
  match made with
  | none => none
  | some (root, rest, nodes) =>
    if rest.all (· == .documentEnd) then some ⟨root, nodes⟩ else none

end Document

end BenchReport.Yaml
