import BenchReport.Page.Render
import BenchReport.Proofs.Page.Tag

/-!
What templates of words, names and loops show. The text depends on the current value alone: blocks
that give no names change nothing for the blocks inside them.
-/
namespace BenchReport.Page

namespace Element

def words (content : String) : Element := .text content.toList

def named (name : String) : Element := .value (.ofName name.toList)

/-- What a template shows of each item of a list. -/
def loop (name : String) (body : Template) : Element :=
  .block (.ofNames "each".toList name.toList) body none

end Element

/-- A value is the current one, and no block around the place has given names. -/
structure Scope.Holds (scope : Scope) (value : Datum) : Prop where
  value_eq : scope.value 0 = value
  unnamed : ∀ frame ∈ scope.frames, frame.names = []

section

variable {scope : Scope} {value found : Datum} {members : List (String × Datum)} {name : String}

namespace Scope.Holds

theorem ofData (root : Datum) : (Scope.ofData root).Holds root :=
  ⟨rfl, by simp [Scope.ofData]⟩

theorem enter (h : scope.Holds value) {frame : Frame} (hframe : frame.names = []) :
    (scope.enter frame).Holds frame.value :=
  ⟨rfl, List.forall_mem_cons.mpr ⟨hframe, h.unnamed⟩⟩

theorem named? (h : scope.Holds value) (name : String) : scope.named? name = none := by
  rw [Scope.named?, List.findSome?_eq_none_iff]
  intro frame hframe
  rw [h.unnamed frame hframe]
  rfl

theorem lookUp_this (h : scope.Holds value) :
    scope.lookUp (.ofName "this".toList) = .ok (some value) := by
  rw [← h.value_eq]
  rfl

theorem lookUp_member (h : scope.Holds (.object members)) (hthis : name ≠ "this")
    (hmember : Datum.member? name members = some found) :
    scope.lookUp (.ofName name.toList) = .ok (some found) := by
  simp [Path.ofName, hthis, lookUp, h.named?, h.value_eq, Datum.descend?, Datum.step?, hmember]

end Scope.Holds

end

theorem values_itemFrames (items : List Datum) :
    (itemFrames [] items).map Frame.value = items := by
  apply List.ext_getElem <;> simp [itemFrames]

theorem names_itemFrames {items : List Datum} {frame : Frame} (h : frame ∈ itemFrames [] items) :
    frame.names = [] := by
  rw [itemFrames, List.mem_mapIdx] at h
  obtain ⟨i, hi, rfl⟩ := h
  rfl

/-- A loop goes over the items of the list that its name leads to, even if there are none. -/
theorem render_loop {scope : Scope} {name : String} {items : List Datum}
    (hfound : scope.lookUp (.ofName name.toList) = .ok (some (.list items))) (body : Template) :
    (Element.loop name body).render scope =
      renderEach scope (renderAll body) (itemFrames [] items) := by
  have harguments : scope.arguments [.ofName name.toList] [] = .ok ⟨[some (.list items)], []⟩ := by
    simp [Scope.arguments, Scope.evaluateAll, Scope.evaluate, Scope.evaluateOptions,
      Param.ofName, hfound]
  rw [Element.loop, Element.render, renderBlock, Head.ofNames, harguments]
  cases items with
  | nil => rfl
  | cons first rest => rfl

/-- Names that are only looked up among the members of a value. -/
def isFieldName (name : String) : Bool := !isHelper name && name != "this"

/-- The text that a template shows wherever a value is the current one. -/
def Shows (value : Datum) (template : Template) (text : String) : Prop :=
  ∀ scope : Scope, scope.Holds value → renderAll template scope = .ok text.toList

section

variable {value found : Datum} {members : List (String × Datum)} {name more : String}
  {rest body : Template} {Item : Type} {items : List Item} {datum : Item → Datum}
  {text : Item → String}

theorem renderEach_eq {scope : Scope} {frames : List Frame} {current : Datum}
    (hscope : scope.Holds current) (hnames : ∀ frame ∈ frames, frame.names = [])
    (hvalues : frames.map Frame.value = items.map datum)
    (hbody : ∀ item ∈ items, Shows (datum item) body (text item)) :
    renderEach scope (renderAll body) frames = .ok (String.join (items.map text)).toList := by
  induction items generalizing frames with
  | nil =>
    rw [List.map_eq_nil_iff.mp hvalues]
    rfl
  | cons item items ih =>
    obtain ⟨frame, frames, rfl, hvalue, hvalues⟩ := List.map_eq_cons_iff.mp hvalues
    rw [List.forall_mem_cons] at hnames hbody
    have hframe := hscope.enter hnames.1
    rw [hvalue] at hframe
    rw [renderEach, hbody.1 _ hframe, ih hnames.2 hvalues hbody.2]
    simp [Rendering.append]

namespace Shows

theorem nil : Shows value [] "" := fun _ _ => rfl

theorem words (content : String) (hrest : Shows value rest more) :
    Shows value (.words content :: rest) (content ++ more) := by
  intro scope hscope
  simp [renderAll, Element.words, Element.render, hrest scope hscope, Rendering.append]

/-- A name shows what it leads to, unless it is that of a helper. -/
theorem named {shown : String} (hhelper : isHelper name = false)
    (hfound : ∀ scope : Scope, scope.Holds value →
      scope.lookUp (.ofName name.toList) = .ok (some found))
    (hshown : found.shown = shown.toList) (hrest : Shows value rest more) :
    Shows value (.named name :: rest) (shown ++ more) := by
  intro scope hscope
  simp [renderAll, Element.named, Element.render, Param.ofName, renderValue, hhelper,
    hfound scope hscope, showValue, hshown, hrest scope hscope, Rendering.append]

theorem current {shown : String} (hshown : value.shown = shown.toList)
    (hrest : Shows value rest more) : Shows value (.named "this" :: rest) (shown ++ more) :=
  named rfl (fun _ hscope => hscope.lookUp_this) hshown hrest

theorem member {shown : String} (hfield : isFieldName name = true)
    (hmember : Datum.member? name members = some found) (hshown : found.shown = shown.toList)
    (hrest : Shows (.object members) rest more) :
    Shows (.object members) (.named name :: rest) (shown ++ more) := by
  simp only [isFieldName, Bool.and_eq_true, Bool.not_eq_true', bne_iff_ne] at hfield
  exact named hfield.1 (fun _ hscope => hscope.lookUp_member hfield.2 hmember) hshown hrest

/-- A loop shows its body for each item, in order, and nothing for no items. -/
theorem loop (hthis : name ≠ "this")
    (hmember : Datum.member? name members = some (.list (items.map datum)))
    (hbody : ∀ item ∈ items, Shows (datum item) body (text item))
    (hrest : Shows (.object members) rest more) :
    Shows (.object members) (.loop name body :: rest) (String.join (items.map text) ++ more) := by
  intro scope hscope
  have hfound := hscope.lookUp_member hthis hmember
  have heach := renderEach_eq hscope (fun frame => names_itemFrames)
    (values_itemFrames (items.map datum)) hbody
  rw [renderAll, render_loop hfound, heach, hrest scope hscope]
  simp [Rendering.append]

theorem render {page : Template} {text : String} (h : Shows value page text) :
    Template.render page value = .ok text := by
  simp [Template.render, h _ (.ofData value)]

end Shows

end

end BenchReport.Page
