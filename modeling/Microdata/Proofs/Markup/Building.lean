import Mathlib.Data.List.Basic
import Microdata.Proofs.Markup.Reading
set_option autoImplicit false

/-!
What the builder makes of any events at all, however they start and stop elements. `Stacks` keeps
the names of the open elements next to a `Scaffold`, which refuses to stop an element that is not
the innermost one; a builder stays like them, so that nothing is ever refused
(`Builder.IsOrderly.step_split`). A page in document order is a list of marks, and each step of the
builder puts the marks of its event at the end (`Builder.marks_step`). Main statement:
`build_keeps`.
-/

namespace Microdata
namespace Markup

inductive Misuse where
  | nothingOpen
  | otherOpen (tag : String)
  | unfinished
  deriving DecidableEq, Repr

/-- Elements under construction, innermost first, and the outermost one once it has stopped. -/
structure Scaffold where
  opened : List Element
  finished : Option Element

namespace Scaffold

def empty : Scaffold := ⟨[], none⟩

def start (tag : String) (attributes : List (String × String)) (s : Scaffold) : Scaffold :=
  { s with opened := .mk (.named tag) attributes "" [] :: s.opened }

def stop (tag : String) (s : Scaffold) : Except Misuse Scaffold :=
  match s.opened with
  | [] => .error .nothingOpen
  | e :: outer =>
    if e.isTagged tag then
      match outer with
      | [] => .ok ⟨[], s.finished.or (some e)⟩
      | parent :: outer => .ok { s with opened := parent.append (e, "") :: outer }
    else .error (.otherOpen tag)

def data (text : String) (s : Scaffold) : Except Misuse Scaffold :=
  match s.opened with
  | [] => .error .nothingOpen
  | e :: outer => .ok { s with opened := e.appendText text :: outer }

def close (s : Scaffold) : Except Misuse Element :=
  match s.opened, s.finished with
  | [], some root => .ok root
  | _, _ => .error .unfinished

end Scaffold

structure Stacks where
  tags : List String
  scaffold : Scaffold

namespace Stacks

def rootName : String := "#fragment"

def empty : Stacks := ⟨[], Scaffold.empty.start rootName []⟩

def closeTop (s : Stacks) : Except Misuse Stacks :=
  match s.tags with
  | [] => .error .nothingOpen
  | top :: tags => (s.scaffold.stop top).map fun scaffold => ⟨tags, scaffold⟩

def closeImplied (tag : String) (s : Stacks) : Except Misuse Stacks :=
  match s.tags with
  | [] => .ok s
  | top :: _ => if (closedBy tag).contains top then s.closeTop else .ok s

def closeThrough (tag : String) : List String → Scaffold → Except Misuse Stacks
  | [], scaffold => .ok ⟨[], scaffold⟩
  | top :: tags, scaffold => do
    let scaffold ← scaffold.stop top
    if top == tag then .ok ⟨tags, scaffold⟩ else closeThrough tag tags scaffold

def closeAll : List String → Scaffold → Except Misuse Scaffold
  | [], scaffold => .ok scaffold
  | top :: tags, scaffold => do closeAll tags (← scaffold.stop top)

def step (s : Stacks) : Event → Except Misuse Stacks
  | .start tag attributes => do
    let s ← s.closeImplied tag
    let scaffold := s.scaffold.start tag attributes
    if isVoid tag then .ok ⟨s.tags, ← scaffold.stop tag⟩ else .ok ⟨tag :: s.tags, scaffold⟩
  | .empty tag attributes => do .ok ⟨s.tags, ← (s.scaffold.start tag attributes).stop tag⟩
  | .stop tag =>
    if isVoid tag || !s.tags.contains tag then .ok s else closeThrough tag s.tags s.scaffold
  | .data text => do .ok ⟨s.tags, ← s.scaffold.data text⟩

def finish (s : Stacks) : Except Misuse Element := do
  let scaffold ← closeAll s.tags s.scaffold
  (← scaffold.stop rootName).close

def run (events : List Event) : Except Misuse Element := do
  (← events.foldlM step .empty).finish

end Stacks

def IsHollow (e : Element) : Prop :=
  ∀ tag, e.tag = .named tag → isVoid tag = true → e.text = "" ∧ e.children = []

theorem isHollow_started (tag : String) (as : List (String × String)) :
    IsHollow (.mk (.named tag) as "" []) := fun _ _ _ => ⟨rfl, rfl⟩

theorem fills_started (tag : String) (as : List (String × String)) :
    Fills IsHollow (·.append (.mk (.named tag) as "" [], "")) :=
  fills_append (throughout_single (isHollow_started tag as) throughout_nil "")

structure OpenElement.IsOrderly (o : OpenElement) : Prop where
  tag_eq : o.element.tag = .named o.tag
  full : isVoid o.tag = false
  below : Throughout IsHollow o.element.children

namespace OpenElement.IsOrderly

variable {o : OpenElement} (h : o.IsOrderly)
include h

theorem fill {f : Element → Element} (hf : Fills IsHollow f) :
    OpenElement.IsOrderly { o with element := f o.element } where
  tag_eq := (hf.tag _).trans h.tag_eq
  full := h.full
  below := hf.below _ h.below

theorem isHollow : IsHollow o.element := by
  intro tag htag hv
  obtain rfl : o.tag = tag := Tag.named.inj (h.tag_eq.symm.trans htag)
  exact absurd hv (by simp [h.full])

theorem fills : Fills IsHollow (·.append (o.element, "")) :=
  fills_append (throughout_single h.isHollow h.below "")

end OpenElement.IsOrderly

namespace Builder

structure IsOrderly (b : Builder) : Prop where
  opened : ∀ o ∈ b.inner, o.IsOrderly
  root : b.root.tag = Document.rootTag
  below : Throughout IsHollow b.root.children

variable {b : Builder}

theorem isOrderly_empty : Builder.empty.IsOrderly :=
  ⟨by simp [Builder.empty], rfl, throughout_nil⟩

namespace IsOrderly

theorem update (h : b.IsOrderly) {f : Element → Element} (hf : Fills IsHollow f) :
    (b.update f).IsOrderly := by
  obtain ⟨inner, root⟩ := b
  cases inner with
  | nil => exact ⟨by simp [Builder.update], (hf.tag _).trans h.root, hf.below _ h.below⟩
  | cons o inner =>
    have hopened := List.forall_mem_cons.mp h.opened
    exact ⟨List.forall_mem_cons.mpr ⟨hopened.1.fill hf, hopened.2⟩, h.root, h.below⟩

theorem push (h : b.IsOrderly) {tag : String} (hv : isVoid tag = false)
    (as : List (String × String)) :
    IsOrderly ⟨⟨tag, .mk (.named tag) as "" []⟩ :: b.inner, b.root⟩ :=
  ⟨List.forall_mem_cons.mpr ⟨⟨rfl, hv, throughout_nil⟩, h.opened⟩, h.root, h.below⟩

theorem outer {o : OpenElement} {inner : List OpenElement} {root : Element}
    (h : IsOrderly ⟨o :: inner, root⟩) : o.IsOrderly ∧ IsOrderly ⟨inner, root⟩ :=
  have hopened := List.forall_mem_cons.mp h.opened
  ⟨hopened.1, hopened.2, h.root, h.below⟩

theorem closeTop (h : b.IsOrderly) : b.closeTop.IsOrderly := by
  obtain ⟨inner, root⟩ := b
  cases inner with
  | nil => exact h
  | cons o inner => exact h.outer.2.update h.outer.1.fills

theorem closeMany (h : b.IsOrderly) (n : Nat) : (Builder.closeMany n b).IsOrderly :=
  closeMany_keeps (fun _ h => h.closeTop) n h

theorem closeImplied (h : b.IsOrderly) (tag : String) : (b.closeImplied tag).IsOrderly :=
  closeImplied_keeps (fun _ h => h.closeTop) tag h

theorem step (h : b.IsOrderly) (e : Event) : (b.step e).IsOrderly := by
  cases e with
  | start tag as =>
    have hclosed := h.closeImplied tag
    simp only [Builder.step]
    split
    · exact hclosed.update (fills_started tag as)
    · rename_i hv
      exact hclosed.push (Bool.not_eq_true _ ▸ hv) as
  | empty tag as => exact h.update (fills_started tag as)
  | stop tag =>
    simp only [Builder.step]
    split
    · exact h
    · split
      · exact h
      · exact h.closeMany _
  | data text => exact h.update (fills_appendText text)

theorem foldl (h : b.IsOrderly) (es : List Event) : (es.foldl Builder.step b).IsOrderly := by
  induction es generalizing b with
  | nil => exact h
  | cons e es ih => exact ih (h.step e)

end IsOrderly

def tags (b : Builder) : List String := b.inner.map (·.tag)

def scaffold (b : Builder) : Scaffold := ⟨b.inner.map (·.element) ++ [b.root], none⟩

def split (b : Builder) : Stacks := ⟨b.tags, b.scaffold⟩

@[simp] theorem tags_update (b : Builder) (f : Element → Element) : (b.update f).tags = b.tags := by
  obtain ⟨inner, root⟩ := b
  cases inner <;> rfl

@[simp] theorem tags_closeTop (b : Builder) : b.closeTop.tags = b.tags.tail := by
  obtain ⟨inner, root⟩ := b
  cases inner with
  | nil => rfl
  | cons o inner => exact tags_update ⟨inner, root⟩ _

theorem tags_closeMany (n : Nat) (b : Builder) : (closeMany n b).tags = b.tags.drop n := by
  induction n generalizing b with
  | zero => rfl
  | succ n ih => rw [closeMany, ih, tags_closeTop, List.drop_tail]

theorem data_scaffold (b : Builder) (text : String) :
    b.scaffold.data text = .ok (b.update (·.appendText text)).scaffold := by
  obtain ⟨inner, root⟩ := b
  cases inner <;> rfl

theorem stop_start_scaffold (b : Builder) (tag : String) (as : List (String × String)) :
    (b.scaffold.start tag as).stop tag =
      .ok (b.update (·.append (.mk (.named tag) as "" [], ""))).scaffold := by
  obtain ⟨inner, root⟩ := b
  cases inner <;> simp [scaffold, Scaffold.start, Scaffold.stop, Element.isTagged, Builder.update]

theorem IsOrderly.stop_scaffold (h : b.IsOrderly) {top : String} {tags : List String}
    (htags : b.tags = top :: tags) : b.scaffold.stop top = .ok b.closeTop.scaffold := by
  obtain ⟨inner, root⟩ := b
  cases inner with
  | nil => cases htags
  | cons o inner =>
    obtain rfl : o.tag = top := (List.cons.inj htags).1
    have htagged : o.element.isTagged o.tag = true := by simp [Element.isTagged, h.outer.1.tag_eq]
    cases inner <;> simp [scaffold, Scaffold.stop, htagged, Builder.closeTop, Builder.update]

theorem IsOrderly.closeTop_split (h : b.IsOrderly) {top : String} {tags : List String}
    (htags : b.tags = top :: tags) : b.split.closeTop = .ok b.closeTop.split := by
  have hrest : b.closeTop.tags = tags := by rw [tags_closeTop, htags, List.tail_cons]
  simp only [Stacks.closeTop, split, htags, hrest]
  exact map_eq_ok.mpr ⟨_, h.stop_scaffold htags, rfl⟩

theorem IsOrderly.closeImplied_split (h : b.IsOrderly) (tag : String) :
    b.split.closeImplied tag = .ok (b.closeImplied tag).split := by
  have htop := @h.closeTop_split
  obtain ⟨inner, root⟩ := b
  cases inner with
  | nil => rfl
  | cons o inner =>
    simp only [Stacks.closeImplied, Builder.closeImplied, split, tags, List.map_cons]
    split
    · exact htop rfl
    · rfl

theorem IsOrderly.closeThrough_split (h : b.IsOrderly) {tag : String} {n : Nat}
    (hn : b.tags.findIdx? (· == tag) = some n) :
    Stacks.closeThrough tag b.tags b.scaffold = .ok (Builder.closeMany (n + 1) b).split := by
  generalize htags : b.tags = tags at hn
  induction tags generalizing b n with
  | nil => cases hn
  | cons top rest ih =>
    have hrest : b.closeTop.tags = rest := by rw [tags_closeTop, htags, List.tail_cons]
    rw [List.findIdx?_cons] at hn
    refine bind_eq_ok.mpr ⟨_, h.stop_scaffold htags, ?_⟩
    split
    · rename_i htop
      obtain rfl : 0 = n := by simpa [htop] using hn
      rw [← hrest]
      rfl
    · rename_i htop
      obtain ⟨m, hm, rfl⟩ : ∃ m, rest.findIdx? (· == tag) = some m ∧ m + 1 = n := by
        simpa [htop] using hn
      exact ih h.closeTop hrest hm

theorem IsOrderly.closeAll_split (h : b.IsOrderly) :
    Stacks.closeAll b.tags b.scaffold = .ok (Builder.closeMany b.tags.length b).scaffold := by
  generalize htags : b.tags = tags
  induction tags generalizing b with
  | nil => rfl
  | cons top rest ih =>
    refine bind_eq_ok.mpr ⟨_, h.stop_scaffold htags, ih h.closeTop ?_⟩
    rw [tags_closeTop, htags, List.tail_cons]

/-- The two stacks stay alike, whatever comes next. -/
theorem IsOrderly.step_split (h : b.IsOrderly) (e : Event) :
    b.split.step e = .ok (b.step e).split := by
  cases e with
  | start tag as =>
    refine bind_eq_ok.mpr ⟨_, h.closeImplied_split tag, ?_⟩
    simp only [Builder.step]
    split
    · refine bind_eq_ok.mpr ⟨_, stop_start_scaffold _ tag as, ?_⟩
      simp [split]
    · rfl
  | empty tag as =>
    refine bind_eq_ok.mpr ⟨_, stop_start_scaffold b tag as, ?_⟩
    simp [split, Builder.step]
  | stop tag =>
    have hfind : b.inner.findIdx? (fun o => o.tag == tag) = b.tags.findIdx? (· == tag) := by
      rw [tags, List.findIdx?_map]
      rfl
    have hlisted : b.tags.contains tag = (b.tags.findIdx? (· == tag)).isSome := by
      rw [List.findIdx?_isSome, List.any_beq']
    simp only [Stacks.step, Builder.step, split, hfind, hlisted]
    cases hv : isVoid tag with
    | true => rfl
    | false =>
      cases hn : b.tags.findIdx? (· == tag) with
      | none => rfl
      | some n => exact h.closeThrough_split hn
  | data text =>
    refine bind_eq_ok.mpr ⟨_, data_scaffold b text, ?_⟩
    simp [split, Builder.step]

theorem IsOrderly.foldlM_split (h : b.IsOrderly) (es : List Event) :
    es.foldlM Stacks.step b.split = .ok (es.foldl Builder.step b).split := by
  induction es generalizing b with
  | nil => rfl
  | cons e es ih => exact bind_eq_ok.mpr ⟨_, h.step_split e, ih (h.step e)⟩

theorem closeMany_all (b : Builder) : closeMany b.tags.length b = ⟨[], b.finish⟩ := by
  have hnone : (closeMany b.tags.length b).tags = [] := by simp [tags_closeMany]
  have hroot : b.finish = (closeMany b.tags.length b).root := by
    rw [finish, tags, List.length_map]
  rw [hroot]
  generalize closeMany b.tags.length b = closed at hnone ⊢
  obtain ⟨inner, root⟩ := closed
  obtain rfl : inner = [] := List.map_eq_nil_iff.mp hnone
  rfl

theorem IsOrderly.finish (h : b.IsOrderly) : IsOrderly ⟨[], b.finish⟩ :=
  closeMany_all b ▸ h.closeMany b.tags.length

theorem IsOrderly.finish_split (h : b.IsOrderly) : b.split.finish = .ok b.finish := by
  refine bind_eq_ok.mpr ⟨_, h.closeAll_split, ?_⟩
  have htagged : b.finish.isTagged Stacks.rootName = true := by
    simp [Element.isTagged, h.finish.root, Document.rootTag, Stacks.rootName]
  rw [closeMany_all]
  simp [scaffold, Scaffold.stop, htagged, bind, Except.bind, Scaffold.close]

end Builder

/-- What a page says in document order: an element starts, or its text goes on. -/
inductive Mark where
  | element (tag : Tag) (attributes : List (String × String))
  | char (c : Char)
  deriving DecidableEq, Repr

namespace Mark

def element? : Mark → Option (Tag × List (String × String))
  | element tag attributes => some (tag, attributes)
  | char _ => none

def char? : Mark → Option Char
  | element _ _ => none
  | char c => some c

def ofText (text : String) : List Mark := text.toList.map .char

theorem ofText_append (s t : String) : ofText (s ++ t) = ofText s ++ ofText t := by
  simp [ofText]

@[simp] theorem filterMap_element?_ofText (text : String) : (ofText text).filterMap element? = [] :=
  by simp [ofText, element?]

@[simp] theorem filterMap_char?_ofText (text : String) :
    (ofText text).filterMap char? = text.toList := by
  simp [ofText, List.filterMap_map, Function.comp_def, char?]

end Mark

open Mark

mutual
def elementMarks : Element → List Mark
  | .mk tag attributes text children =>
    .element tag attributes :: (ofText text ++ childrenMarks children)

def childrenMarks : List Child → List Mark
  | [] => []
  | (e, tail) :: rest => elementMarks e ++ (ofText tail ++ childrenMarks rest)
end

theorem childrenMarks_append (cs ds : List Child) :
    childrenMarks (cs ++ ds) = childrenMarks cs ++ childrenMarks ds := by
  induction cs with
  | nil => rfl
  | cons c cs ih => simp [childrenMarks, ih]

theorem childrenMarks_appendToLast (text : String) (c : Child) (cs : List Child) :
    childrenMarks (Element.appendToLast text (c :: cs)) =
      childrenMarks (c :: cs) ++ ofText text := by
  induction cs generalizing c with
  | nil => simp [Element.appendToLast, childrenMarks, ofText_append]
  | cons d cs ih => simp [Element.appendToLast, childrenMarks, ih]

theorem elementMarks_append (e d : Element) :
    elementMarks (e.append (d, "")) = elementMarks e ++ elementMarks d := by
  obtain ⟨tag, as, text, children⟩ := e
  simp [Element.append, elementMarks, childrenMarks_append, childrenMarks, ofText]

theorem elementMarks_appendText (e : Element) (text : String) :
    elementMarks (e.appendText text) = elementMarks e ++ ofText text := by
  obtain ⟨tag, as, front, children⟩ := e
  cases children with
  | nil => simp [Element.appendText, elementMarks, childrenMarks, ofText_append]
  | cons c cs => simp [Element.appendText, elementMarks, childrenMarks_appendToLast]

mutual
theorem filterMap_element?_elementMarks (e : Element) :
    (elementMarks e).filterMap element? = e.descendants.map fun d => (d.tag, d.attributes) := by
  match e with
  | .mk tag as text children =>
    have hbelow := filterMap_element?_childrenMarks children
    simp [elementMarks, Element.descendants, element?, hbelow]

theorem filterMap_element?_childrenMarks (cs : List Child) :
    (childrenMarks cs).filterMap element? =
      (Element.descendantsOf cs).map fun d => (d.tag, d.attributes) := by
  match cs with
  | [] => rfl
  | (e, tail) :: rest =>
    have he := filterMap_element?_elementMarks e
    have hrest := filterMap_element?_childrenMarks rest
    simp [childrenMarks, Element.descendantsOf, he, hrest]
end

mutual
theorem filterMap_char?_elementMarks (e : Element) :
    (elementMarks e).filterMap char? = e.textContent.toList := by
  match e with
  | .mk tag as text children =>
    have hbelow := filterMap_char?_childrenMarks children
    simp [elementMarks, Element.textContent, List.filterMap_cons, char?, hbelow]

theorem filterMap_char?_childrenMarks (cs : List Child) :
    (childrenMarks cs).filterMap char? = (Element.textContents cs).toList := by
  match cs with
  | [] => rfl
  | (e, tail) :: rest =>
    have he := filterMap_char?_elementMarks e
    have hrest := filterMap_char?_childrenMarks rest
    simp [childrenMarks, Element.textContents, he, hrest]
end

namespace Event

def started? : Event → Option (Tag × List (String × String))
  | start tag attributes | empty tag attributes => some (.named tag, attributes)
  | stop _ | data _ => none

def text : Event → String
  | data text => text
  | start _ _ | empty _ _ | stop _ => ""

def marks : Event → List Mark
  | start tag attributes | empty tag attributes => [.element (.named tag) attributes]
  | data text => ofText text
  | stop _ => []

theorem filterMap_element?_marks (e : Event) : e.marks.filterMap element? = e.started?.toList := by
  cases e <;> simp [marks, started?, element?]

theorem filterMap_char?_marks (e : Event) : e.marks.filterMap char? = e.text.toList := by
  cases e <;> simp [marks, text, char?]

end Event

namespace Builder

def marks (b : Builder) : List Mark :=
  elementMarks b.root ++ b.inner.reverse.flatMap fun o => elementMarks o.element

theorem marks_update (b : Builder) {f : Element → Element} {ms : List Mark}
    (hf : ∀ e, elementMarks (f e) = elementMarks e ++ ms) : (b.update f).marks = b.marks ++ ms := by
  obtain ⟨inner, root⟩ := b
  cases inner with
  | nil => simp [Builder.update, marks, hf]
  | cons o inner => simp [Builder.update, marks, hf]

theorem marks_push (b : Builder) (o : OpenElement) :
    marks ⟨o :: b.inner, b.root⟩ = b.marks ++ elementMarks o.element := by
  simp [marks]

theorem marks_closeTop (b : Builder) : b.closeTop.marks = b.marks := by
  obtain ⟨inner, root⟩ := b
  cases inner with
  | nil => rfl
  | cons o inner =>
    rw [Builder.closeTop, marks_update _ fun e => elementMarks_append e o.element]
    exact (marks_push ⟨inner, root⟩ o).symm

theorem marks_closeMany (n : Nat) (b : Builder) : (closeMany n b).marks = b.marks :=
  closeMany_keeps (fun c hc => (marks_closeTop c).trans hc) n rfl

theorem marks_closeImplied (b : Builder) (tag : String) :
    (b.closeImplied tag).marks = b.marks :=
  closeImplied_keeps (fun c hc => (marks_closeTop c).trans hc) tag rfl

theorem elementMarks_started (tag : String) (as : List (String × String)) :
    elementMarks (.mk (.named tag) as "" []) = [.element (.named tag) as] := by
  simp [elementMarks, childrenMarks, ofText]

theorem marks_step (b : Builder) (e : Event) : (b.step e).marks = b.marks ++ e.marks := by
  have hstarted (b : Builder) (tag : String) (as : List (String × String)) :
      (b.update (·.append (.mk (.named tag) as "" [], ""))).marks =
        b.marks ++ [.element (.named tag) as] :=
    marks_update b fun e => by rw [elementMarks_append, elementMarks_started]
  cases e with
  | start tag as =>
    simp only [step, Event.marks]
    split
    · rw [hstarted, marks_closeImplied]
    · rw [marks_push, marks_closeImplied, elementMarks_started]
  | empty tag as => exact hstarted b tag as
  | stop tag =>
    simp only [step, Event.marks, List.append_nil]
    split
    · rfl
    · split
      · rfl
      · exact marks_closeMany _ b
  | data text => exact marks_update b fun e => elementMarks_appendText e text

theorem marks_foldl (es : List Event) (b : Builder) :
    (es.foldl step b).marks = b.marks ++ es.flatMap Event.marks := by
  induction es generalizing b with
  | nil => simp
  | cons e es ih => rw [List.foldl_cons, ih, marks_step, List.flatMap_cons, List.append_assoc]

theorem elementMarks_finish (b : Builder) : elementMarks b.finish = b.marks := by
  have hmarks := marks_closeMany b.tags.length b
  rw [closeMany_all] at hmarks
  simpa [marks] using hmarks

end Builder

theorem elementMarks_build (events : List Event) :
    elementMarks (build events) = .element Document.rootTag [] :: events.flatMap Event.marks := by
  rw [build, Builder.elementMarks_finish, Builder.marks_foldl]
  simp [Builder.marks, Builder.empty, elementMarks, childrenMarks, ofText]

theorem descendants_build (events : List Event) :
    (build events).descendants.map (fun e => (e.tag, e.attributes)) =
      (Document.rootTag, []) :: events.filterMap Event.started? := by
  rw [← filterMap_element?_elementMarks, elementMarks_build,
    List.filterMap_eq_flatMap_toList Event.started?]
  simp [element?, List.filterMap_flatMap, Event.filterMap_element?_marks]

theorem textContent_build (events : List Event) :
    (build events).textContent = String.join (events.map Event.text) := by
  apply String.toList_injective
  rw [← filterMap_char?_elementMarks, elementMarks_build]
  simp [List.filterMap_cons, char?, List.filterMap_flatMap, Event.filterMap_char?_marks,
    List.flatMap_map]

theorem run_eq_build (events : List Event) : Stacks.run events = .ok (build events) :=
  have hempty := Builder.isOrderly_empty
  bind_eq_ok.mpr ⟨_, hempty.foldlM_split events, (hempty.foldl events).finish_split⟩

/-- A builder never fails, and what it makes holds the elements and the text of all events in their
order, however they start and stop elements. -/
theorem build_keeps (events : List Event) :
    ∃ front children, build events = .mk Document.rootTag [] front children ∧
      Stacks.run events = .ok (build events) ∧
      (Element.descendantsOf children).map (fun e => (e.tag, e.attributes)) =
        events.filterMap Event.started? ∧
      (build events).textContent = String.join (events.map Event.text) ∧
      ∀ e ∈ Element.descendantsOf children, IsHollow e := by
  have hbelow : Throughout IsHollow (build events).children :=
    (Builder.isOrderly_empty.foldl events).finish.below
  have hstarted := descendants_build events
  have hrun := run_eq_build events
  have htext := textContent_build events
  generalize build events = root at hbelow hstarted hrun htext ⊢
  obtain ⟨tag, as, front, children⟩ := root
  rw [Element.descendants, List.map_cons, List.cons.injEq, Prod.mk.injEq] at hstarted
  obtain ⟨⟨rfl, rfl⟩, hstarted⟩ := hstarted
  exact ⟨front, children, rfl, hrun, hstarted, htext, hbelow⟩

example : build [.start "p" [], .data "a", .start "b" [], .stop "p", .stop "b", .start "br" [],
    .stop "br", .data "c"] = .mk Document.rootTag [] ""
      [(.mk (.named "p") [] "a" [(.mk (.named "b") [] "" [], "")], ""),
        (.mk (.named "br") [] "" [], "c")] := by
  rfl

end Markup
end Microdata
