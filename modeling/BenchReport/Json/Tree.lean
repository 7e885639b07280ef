import BenchReport.Number.Binary64

/-!
What a JSON text spells. Faults are part of the tree, at the place where reading meets them, so
that a reader that walks the tree in order reports the first one. Some spellings are refused only
by a reader that wants their content: a string without Unicode text, a number out of range.
-/
namespace BenchReport.Json

/-- Why a text is no JSON: it ends too early, or something else stands there. -/
inductive Fault
  | truncated | malformed
  deriving DecidableEq

/-- A place where a text stops being JSON: the fault for a reader that wants the content, and for
one that passes over it. -/
structure Break where
  read : Fault
  skipped : Fault
  deriving DecidableEq

def Break.both (fault : Fault) : Break := ⟨fault, fault⟩

mutual

/-- A value as it is spelled. -/
inductive Tree
  | null
  | bool (b : Bool)
  | integer (n : Int)
  | real (x : Binary64)
  | tooLarge
  | string (s : String)
  | unpaired
  | list (items : Items)
  | object (members : Members)
  | broken (b : Break)

/-- The items of a list, up to its end or to where the list breaks off. -/
inductive Items
  | close
  | stop (b : Break)
  | item (value : Tree) (rest : Items)

/-- The members of an object, up to its end or to where it breaks off. A key without Unicode text
is `none`; a value in the place of a key stops every reader that wants a key. -/
inductive Members
  | close
  | stop (b : Break)
  | keyless (fault : Fault) (value : Tree)
  | member (key : Option String) (value : Tree) (rest : Members)

end

mutual

/-- The first fault met when the value is passed over. -/
def Tree.skipFault? : Tree → Option Fault
  | .broken b => some b.skipped
  | .list items => items.skipFault?
  | .object members => members.skipFault?
  | _ => none
termination_by structural t => t

/-- The first fault met when the items are passed over. -/
def Items.skipFault? : Items → Option Fault
  | .close => none
  | .stop b => some b.skipped
  | .item value rest =>
    match value.skipFault? with
    | some fault => some fault
    | none => rest.skipFault?
termination_by structural items => items

/-- The first fault met when the members are passed over. -/
def Members.skipFault? : Members → Option Fault
  | .close => none
  | .stop b => some b.skipped
  | .keyless fault _ => some fault
  | .member _ value rest =>
    match value.skipFault? with
    | some fault => some fault
    | none => rest.skipFault?
termination_by structural members => members

end

mutual

/-- The first fault met when the whole content is wanted and lists and objects may nest only
`room` deep. -/
def Tree.readFault? (room : Nat) : Tree → Option Fault
  | .broken b => some b.read
  | .tooLarge | .unpaired => some .malformed
  | .list items => if room = 0 then some .malformed else items.readFault? (room - 1)
  | .object members => if room = 0 then some .malformed else members.readFault? (room - 1)
  | _ => none
termination_by structural t => t

/-- The first fault met when the content of the items is wanted. -/
def Items.readFault? (room : Nat) : Items → Option Fault
  | .close => none
  | .stop b => some b.read
  | .item value rest =>
    match value.readFault? room with
    | some fault => some fault
    | none => rest.readFault? room
termination_by structural items => items

/-- The first fault met when the content of the members is wanted. -/
def Members.readFault? (room : Nat) : Members → Option Fault
  | .close => none
  | .stop b => some b.read
  | .keyless fault _ => some fault
  | .member none _ _ => some .malformed
  | .member (some _) value rest =>
    match value.readFault? room with
    | some fault => some fault
    | none => rest.readFault? room
termination_by structural members => members

end

end BenchReport.Json
