import BenchReport.Page.Helper
import BenchReport.Page.Layout

/-!
Rendering page templates. Values are shown as they are, without any escaping, and a value that is
wanted but not there is a fault.
-/
namespace BenchReport.Page

/-- A rendered text, or why there is none. -/
abbrev Rendering := Except Fault (List Char)

def Rendering.append (first rest : Rendering) : Rendering :=
  match first with
  | .error fault => .error fault
  | .ok text =>
    match rest with
    | .error fault => .error fault
    | .ok more => .ok (text ++ more)

/-- The names that a loop gives to the value and the key of a round. -/
def givenNames (names : List String) (value key : Datum) : List (String × Datum) :=
  match names with
  | [] => []
  | [name] => [(name, value)]
  | name :: other :: _ => [(name, value), (other, key)]

def itemFrames (names : List String) (items : List Datum) : List Frame :=
  items.mapIdx fun i item =>
    let index : Datum := .integer i
    { value := item
      locals := [("index", index), ("first", .bool (i == 0)),
        ("last", .bool (i + 1 == items.length))]
      names := givenNames names item index }

def memberFrames (names : List String) (members : List (String × Datum)) : List Frame :=
  members.mapIdx fun i (key, value) =>
    { value := value
      locals := [("key", .text key), ("first", .bool (i == 0)),
        ("last", .bool (i + 1 == members.length))]
      names := givenNames names value (.text key) }

/-- The frames of a loop over a value, unless there is nothing to go over. -/
def loopFrames? (names : List String) : Datum → Option (List Frame)
  | .list [] | .object [] => none
  | .list items => some (itemFrames names items)
  | .object members => some (memberFrames names members)
  | _ => none

def renderEach (scope : Scope) (body : Scope → Rendering) : List Frame → Rendering
  | [] => .ok []
  | frame :: rest => (body (scope.enter frame)).append (renderEach scope body rest)

/-- What a block shows, given its body and the alternative to it. -/
def renderBlock (scope : Scope) (head : Head) (body : Scope → Rendering)
    (otherwise : Option (Scope → Rendering)) : Rendering :=
  match scope.arguments head.params head.options with
  | .error fault => .error fault
  | .ok arguments =>
    let alternative : Rendering :=
      match otherwise with
      | some render => render scope
      | none => .ok []
    match Operation.ofName? head.name, Chooser.ofName? head.name with
    | some _, _ =>
      match callValue head.name arguments with
      | .error fault => .error fault
      | .ok value => .ok value.shown
    | none, none => .error (.unknownHelper head.name)
    | none, some chooser =>
      match chooser, arguments.values with
      | .unchanged, _ => body scope
      | .logged, _ => if chooser.isQuiet arguments then .ok [] else .error (.badArguments head.name)
      | _, [] => .error (.badArguments head.name)
      | .ifTrue, value :: _ | .ifFalse, value :: _ =>
        let zeroCounts := match arguments.option? "includeZero" with
          | some (.bool b) => b
          | _ => false
        let holds := (value.getD .null).holds zeroCounts
        if holds = (chooser == .ifTrue) then body scope else alternative
      | .inside, value :: _ =>
        let value := value.getD .null
        if value.holds false then
          let names := match head.names with
            | [name] => [(name, value)]
            | _ => []
          body (scope.enter ⟨value, [], names⟩)
        else if otherwise.isSome then alternative
        else .error .missingValue
      | .each, value :: _ =>
        let value := value.getD .null
        match loopFrames? head.names value with
        | some frames => renderEach scope body frames
        | none =>
          if otherwise.isSome then alternative
          else
            match value with
            | .list _ | .object _ => .ok []
            | _ => .error .missingValue

def renderCall (scope : Scope) (name : String) (params : List Param)
    (options : List (String × Param)) : Rendering :=
  match scope.arguments params options with
  | .error fault => .error fault
  | .ok arguments =>
    match callValue name arguments with
    | .error fault => .error fault
    | .ok value => .ok value.shown

/-- What a value shows, if there is one. -/
def showValue (value : Except Fault (Option Datum)) : Rendering :=
  match value with
  | .error fault => .error fault
  | .ok none => .error .missingValue
  | .ok (some value) => .ok value.shown

/-- What a value shows that a tag names alone. A helper of its name goes first; the text that a
call comes to is such a name too. -/
def renderValue (scope : Scope) (target : Param) : Rendering :=
  match target with
  | .path name path =>
    if isHelper name then renderCall scope name [] [] else showValue (scope.lookUp path)
  | target =>
    match showValue (scope.evaluate target) with
    | .error fault => .error fault
    | .ok text =>
      let name := String.ofList text
      if isHelper name then renderCall scope name [] [] else .ok text

mutual

def Element.render : Element → Scope → Rendering
  | .text content, _ => .ok content
  | .comment, _ => .ok []
  | .value target, scope => renderValue scope target
  | .call name params options, scope => renderCall scope name params options
  | .block head body none, scope =>
    renderBlock scope head (fun inner => renderAll body inner) none
  | .block head body (some otherwise), scope =>
    renderBlock scope head (fun inner => renderAll body inner)
      (some fun inner => renderAll otherwise inner)
  | .inclusion, _ => .error .unknownPage
termination_by structural element => element

def renderAll : List Element → Scope → Rendering
  | [], _ => .ok []
  | element :: rest, scope => (element.render scope).append (renderAll rest scope)
termination_by structural elements => elements

end

def Template.render (template : Template) (data : Datum) : Except Fault String :=
  match renderAll template (.ofData data) with
  | .ok text => .ok (String.ofList text)
  | .error fault => .error fault

end BenchReport.Page
