import Microdata.Markup.Builder
import Microdata.Markup.Writer
import Microdata.Proofs.Markup.Names
import Microdata.Proofs.Markup.Raw
set_option autoImplicit false

/-!
Trees from their own events. `IsRead` says how the elements of a page are that has been read, and
`IsRepeatable` what else it takes for an element to be read again as it is written. Main statement:
`foldl_elementEvents`, the events that an element says by itself and its content add that element to
whatever is open, if no element in it closes its parent.
-/

namespace Microdata
namespace Markup

def peculiarTags : List String := ["script", "style", "basefont", "frame", "isindex"]

/-- An element that the notation can express, whatever its texts and values are. As in every
element, no two attributes have one name. -/
structure IsPlain (e : Element) (tag : String) : Prop where
  tag_eq : e.tag = .named tag
  word : IsWord tag
  ordinary : tag ∉ peculiarTags
  names : ∀ p ∈ e.attributes, IsWord p.1
  distinct : (e.attributes.map (·.1)).Nodup
  hollow : isVoid tag = true → e.text = "" ∧ e.children = []
  nested : ∀ c ∈ e.children, ∀ inner, c.1.tag = .named inner → tag ∉ closedBy inner

def IsExpressible (e : Element) : Prop := ∀ d ∈ e.descendants, ∃ tag, IsPlain d tag

structure AreRead (attributes : List (String × String)) : Prop where
  names : ∀ p ∈ attributes, IsAttributeName p.1
  distinct : (attributes.map (·.1)).Nodup

structure IsRead (e : Element) (tag : String) : Prop where
  tag_eq : e.tag = .named tag
  name : IsTagName tag
  attributes : AreRead e.attributes
  hollow : isVoid tag = true → e.text = "" ∧ e.children = []
  raw : isRaw tag = true → e.children = [] ∧ Unclosed tag.toList e.text.toList

/-- What else an element needs so that its markup describes it. -/
structure IsRepeatable (e : Element) (tag : String) : Prop where
  /-- It is written without an end tag only if it is read without one. -/
  closes : unclosedTags.contains tag = isVoid tag
  /-- Its end tag names it to the last character. -/
  ends : endsInBlank tag = false
  unqualified : ∀ p ∈ e.attributes, IsUnqualified p.1
  nested : ∀ c ∈ e.children, ∀ inner, c.1.tag = .named inner → tag ∉ closedBy inner

def Repeats (e : Element) : Prop := ∀ d ∈ e.descendants, ∃ tag, IsRead d tag ∧ IsRepeatable d tag

theorem unclosedTags_contains {tag : String} (h : tag ∉ peculiarTags) :
    unclosedTags.contains tag = isVoid tag := by
  have hunclosed : ∀ t ∈ unclosedTags, t ∈ voidTags ∨ t ∈ peculiarTags := by decide
  have hvoid : ∀ t ∈ voidTags, t ∈ unclosedTags := by decide
  rw [isVoid, Bool.eq_iff_iff, List.contains_iff_mem, List.contains_iff_mem]
  exact ⟨fun ht => (hunclosed tag ht).resolve_right h, hvoid tag⟩

theorem isRaw_eq_false {tag : String} (h : tag ∉ peculiarTags) : isRaw tag = false := by
  simp [peculiarTags] at h
  simp [isRaw, h]

theorem isRaw_of_isVoid {tag : String} (h : isVoid tag = true) : isRaw tag = false := by
  have hall : ∀ t ∈ voidTags, isRaw t = false := by decide
  exact hall tag (List.contains_iff_mem.mp h)

theorem IsPlain.isRead {e : Element} {tag : String} (h : IsPlain e tag) : IsRead e tag where
  tag_eq := h.tag_eq
  name := h.word.isTagName
  attributes := ⟨fun p hp => (h.names p hp).isAttributeName, h.distinct⟩
  hollow := h.hollow
  raw := fun hraw => absurd hraw (by simp [isRaw_eq_false h.ordinary])

theorem IsPlain.isRepeatable {e : Element} {tag : String} (h : IsPlain e tag) :
    IsRepeatable e tag where
  closes := unclosedTags_contains h.ordinary
  ends := h.word.endsInBlank
  unqualified := fun p hp => isUnqualified_of_letter (h.names p hp).isTagName.letter
  nested := h.nested

theorem IsExpressible.repeats {e : Element} (h : IsExpressible e) : Repeats e := fun d hd =>
  have ⟨tag, hplain⟩ := h d hd
  ⟨tag, hplain.isRead, hplain.isRepeatable⟩

mutual
def elementEvents : Element → List Event
  | .mk .comment _ _ _ => []
  | .mk (.named tag) attributes text children =>
    .start tag attributes ::
      (if isVoid tag then []
        else dataEvent text ++ (childrenEvents children ++ [.stop tag]))

def childrenEvents : List Child → List Event
  | [] => []
  | (e, tail) :: rest => elementEvents e ++ (dataEvent tail ++ childrenEvents rest)
end

namespace Builder

variable {b : Builder} {tag : String}

/-- Nothing closes when this element starts. -/
def Admits (b : Builder) (tag : String) : Prop := ∀ o ∈ b.inner.head?, o.tag ∉ closedBy tag

theorem Admits.closeImplied (h : b.Admits tag) : b.closeImplied tag = b := by
  obtain ⟨inner, root⟩ := b
  cases inner with
  | nil => rfl
  | cons o inner =>
    have ho : (closedBy tag).contains o.tag = false := by simpa using h o rfl
    simp only [Builder.closeImplied, ho, Bool.false_eq_true, if_false]

theorem Admits.update (h : b.Admits tag) (f : Element → Element) : (b.update f).Admits tag := by
  obtain ⟨inner, root⟩ := b
  cases inner with
  | nil => exact h
  | cons o inner =>
    intro p hp
    obtain rfl : { o with element := f o.element } = p := by simpa [Builder.update] using hp
    exact h o rfl

theorem update_cons (o : OpenElement) (inner : List OpenElement) (root : Element)
    (f : Element → Element) :
    update f ⟨o :: inner, root⟩ = ⟨{ o with element := f o.element } :: inner, root⟩ := rfl

theorem update_update (b : Builder) (f g : Element → Element) :
    (b.update f).update g = b.update fun e => g (f e) := by
  obtain ⟨inner, root⟩ := b
  cases inner with
  | nil => rfl
  | cons o inner => rfl

theorem update_id (b : Builder) : b.update (fun e => e) = b := by
  obtain ⟨inner, root⟩ := b
  cases inner with
  | nil => rfl
  | cons o inner => rfl

theorem foldl_dataEvent (b : Builder) (text : String) :
    (dataEvent text).foldl step b = b.update (·.appendText text) := by
  unfold dataEvent
  split
  · rename_i h
    simp only [h, Element.appendText_empty, update_id, List.foldl_nil]
  · rfl

theorem step_start (h : b.Admits tag) (hv : isVoid tag = false) (as : List (String × String)) :
    step b (.start tag as) =
      ⟨⟨tag, .mk (.named tag) as "" []⟩ :: b.inner, b.root⟩ := by
  simp only [step, h.closeImplied, hv, Bool.false_eq_true, if_false]

theorem step_stop (hv : isVoid tag = false) (e : Element) :
    step ⟨⟨tag, e⟩ :: b.inner, b.root⟩ (.stop tag) = b.update (·.append (e, "")) := by
  simp only [step, hv, Bool.false_eq_true, if_false, List.findIdx?_cons, beq_self_eq_true, if_true,
    closeMany, closeTop]

end Builder

open Builder

mutual
theorem foldl_elementEvents {e : Element} (h : Repeats e) {b : Builder}
    (hb : ∀ tag, e.tag = .named tag → b.Admits tag) :
    (elementEvents e).foldl step b = b.update (·.append (e, "")) := by
  match e with
  | .mk tag as text children =>
    obtain ⟨name, hread, hrepeatable⟩ := h _ (List.mem_cons_self ..)
    obtain rfl : tag = .named name := hread.tag_eq
    have hadmits := hb name rfl
    rw [elementEvents, List.foldl_cons]
    split
    · rename_i hv
      obtain ⟨rfl, rfl⟩ : text = "" ∧ children = [] := hread.hollow hv
      simp only [step, hadmits.closeImplied, hv, if_true, List.foldl_nil]
    · rename_i hv
      rw [Bool.not_eq_true] at hv
      have htext : (Element.mk (.named name) as "" []).appendText text =
          .mk (.named name) as text [] := by
        simp [Element.appendText]
      -- the element itself is now the innermost one
      have hinside : (childrenEvents children).foldl step
          ⟨⟨name, .mk (.named name) as text []⟩ :: b.inner, b.root⟩ =
          ⟨⟨name, .mk (.named name) as text children⟩ :: b.inner, b.root⟩ := by
        refine foldl_childrenEvents (fun d hd => h d (List.mem_cons_of_mem _ hd)) ?_
        intro c hc inner hinner o ho
        cases ho
        exact hrepeatable.nested c hc inner hinner
      rw [step_start hadmits hv, List.foldl_append, foldl_dataEvent, List.foldl_append,
        update_cons, htext, hinside]
      exact step_stop hv _

theorem foldl_childrenEvents {cs : List Child}
    (h : ∀ d ∈ Element.descendantsOf cs, ∃ tag, IsRead d tag ∧ IsRepeatable d tag) {b : Builder}
    (hb : ∀ c ∈ cs, ∀ tag, c.1.tag = .named tag → b.Admits tag) :
    (childrenEvents cs).foldl step b =
      b.update fun e => .mk e.tag e.attributes e.text (e.children ++ cs) := by
  match cs with
  | [] =>
    have hsame (e : Element) : .mk e.tag e.attributes e.text (e.children ++ []) = e := by
      obtain ⟨tag, as, text, children⟩ := e
      simp
    simp only [childrenEvents, List.foldl_nil, hsame, update_id]
  | (e, tail) :: rest =>
    have he : Repeats e := fun d hd => h d (List.mem_append_left _ hd)
    have hrest : ∀ d ∈ Element.descendantsOf rest, ∃ tag, IsRead d tag ∧ IsRepeatable d tag :=
      fun d hd => h d (List.mem_append_right _ hd)
    have hfirst := foldl_elementEvents he (hb _ (List.mem_cons_self ..))
    have hothers := foldl_childrenEvents hrest (fun c hc tag htag =>
      (hb c (List.mem_cons_of_mem _ hc) tag htag).update (·.append (e, tail)))
    rw [childrenEvents, List.foldl_append, hfirst, List.foldl_append, foldl_dataEvent,
      update_update]
    simp only [Element.appendText_append, String.empty_append]
    rw [hothers, update_update]
    simp [Element.append]
end

theorem build_elementEvents {e : Element} (h : IsExpressible e) :
    build (elementEvents e) = .mk Document.rootTag [] "" [(e, "")] := by
  have hopen : ∀ tag, e.tag = .named tag → Builder.empty.Admits tag := by
    intro tag _ o ho
    cases ho
  rw [build, foldl_elementEvents h.repeats hopen]
  rfl

end Markup
end Microdata
