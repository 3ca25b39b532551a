import Microdata.Proofs.Binding.Setters
import Microdata.Proofs.Markup.Reading
import Mathlib.Data.List.TakeDrop
set_option autoImplicit false

/-!
What a form sends after a value was written on one of its controls. A control stands in frames, the
elements around it, and what a form sends is sent by its elements one after the other.
Main statement: `submits_write`, a control that holds a text sends the text of the value, a choice
does so if the value is among its options, and a switch sends something exactly if the value counts
as true.
-/

namespace Microdata

namespace Element

structure Frame where
  tag : Tag
  attributes : List (String × String)
  text : String
  before : List Child
  tail : String
  after : List Child

def Frame.fill (f : Frame) (e : Element) : Element :=
  .mk f.tag f.attributes f.text (f.before ++ (e, f.tail) :: f.after)

/-- An element at the place in the innermost frame; the first frame is the outermost. -/
def plug (frames : List Frame) (e : Element) : Element := frames.foldr Frame.fill e

theorem descendants_plug (frames : List Frame) (e : Element) :
    ∃ front back, (plug frames e).descendants = front ++ e.descendants ++ back := by
  induction frames with
  | nil => exact ⟨[], [], by simp [plug]⟩
  | cons f frames ih =>
    obtain ⟨front, back, h⟩ := ih
    have hplug : plug (f :: frames) e = f.fill (plug frames e) := rfl
    refine ⟨plug (f :: frames) e :: (descendantsOf f.before ++ front),
      back ++ descendantsOf f.after, ?_⟩
    rw [hplug, Frame.fill, descendants, Markup.descendantsOf_append, descendantsOf, h]
    simp

variable {e : Element} {w : String}

theorem has_selected_selectOptions (h : e.isTagged "option" = true) :
    (e.selectOptions w).has "selected" = (Form.optionValue e == w) := by
  rw [selectOptions_eq, if_pos h, has, get?, attributes_mk]
  exact has_toggle

mutual
theorem textContent_selectOptions (w : String) (e : Element) :
    (e.selectOptions w).textContent = e.textContent := by
  match e with
  | .mk tag attributes text children =>
    rw [selectOptions_eq, textContent, textContent, children_mk,
      textContents_selectOptions w children]
    rfl

theorem textContents_selectOptions (w : String) (cs : List Child) :
    textContents (selectOptionsBelow w cs) = textContents cs := by
  match cs with
  | [] => rfl
  | (e, tail) :: rest =>
    rw [selectOptionsBelow, textContents, textContents, textContent_selectOptions w e,
      textContents_selectOptions w rest]
end

mutual
theorem descendants_selectOptions (w : String) (e : Element) :
    (e.selectOptions w).descendants = e.descendants.map (selectOptions w) := by
  match e with
  | .mk tag attributes text children =>
    have hbelow := descendantsOf_selectOptions w children
    rw [descendants, List.map_cons, ← hbelow, selectOptions_eq, descendants]
    rfl

theorem descendantsOf_selectOptions (w : String) (cs : List Child) :
    descendantsOf (selectOptionsBelow w cs) = (descendantsOf cs).map (selectOptions w) := by
  match cs with
  | [] => rfl
  | (e, tail) :: rest =>
    rw [selectOptionsBelow, descendantsOf, descendantsOf, List.map_append,
      descendants_selectOptions w e, descendantsOf_selectOptions w rest]
end

end Element

namespace Form

open Element

variable {e : Element} {t : String}

theorem optionValue_selectOptions (w : String) (e : Element) :
    optionValue (e.selectOptions w) = optionValue e := by
  rw [optionValue, get?_selectOptions (by decide), textContent_selectOptions, optionValue]

theorem options_selectOptions (w : String) (e : Element) :
    options (e.selectOptions w) = (options e).map (selectOptions w) := by
  have htag : (fun d : Element => d.isTagged "option") ∘ selectOptions w =
      fun d => d.isTagged "option" := by
    funext d
    simp only [Function.comp, isTagged, tag_selectOptions]
  rw [options, descendants_selectOptions, List.filter_map, htag, options]

theorem chosenOptions_selectOptions (hsingle : e.has "multiple" = false)
    (hoption : ∃ o ∈ options e, optionValue o = t) :
    (chosenOptions (e.selectOptions t)).map optionValue = [t] := by
  have hmultiple : (e.selectOptions t).has "multiple" = false := by
    rwa [has, get?_selectOptions (by decide)]
  have hmarked : (options (e.selectOptions t)).filter (·.has "selected") =
      ((options e).filter fun o => optionValue o == t).map (selectOptions t) := by
    rw [options_selectOptions, List.filter_map]
    refine congrArg _ (List.filter_congr fun o ho => ?_)
    exact has_selected_selectOptions (List.mem_filter.mp ho).2
  obtain ⟨o, ho, hvalue⟩ := hoption
  have hne : (options e).filter (fun o => optionValue o == t) ≠ [] :=
    List.ne_nil_of_mem (List.mem_filter.mpr ⟨ho, beq_iff_eq.mpr hvalue⟩)
  have hall : ∀ o ∈ (options e).filter (fun o => optionValue o == t), optionValue o = t :=
    fun o ho => beq_iff_eq.mp (List.mem_filter.mp ho).2
  rw [chosenOptions]
  simp only [hmultiple, hmarked]
  generalize (options e).filter (fun o => optionValue o == t) = marked at hne hall
  have hlast := List.drop_length_sub_one hne
  simp only [List.isEmpty_map, List.isEmpty_eq_false_iff.mpr hne, List.length_map,
    Bool.false_eq_true, if_false, ← List.map_drop, hlast, List.map_cons, List.map_nil,
    optionValue_selectOptions, hall _ (List.getLast_mem hne)]

def sent (e : Element) : List (String × String) :=
  let name := e.get "name"
  if name = "" || e.has "disabled" then [] else (controlValues e).map fun v => (name, v)

/-- In a form, an element at a place gives these pairs, behind those of the elements in front of it
and around it, and in front of those of the elements behind it and in it. -/
def Gives (frames : List Frame) (e : Element) (own : List (String × String)) : Prop :=
  ∃ front back, (plug frames e).descendants = front ++ e :: back ∧
    pairs (plug frames e) = front.flatMap sent ++ own ++ back.flatMap sent

theorem gives_sent (frames : List Frame) (e : Element) : Gives frames e (sent e) := by
  obtain ⟨front, back, h⟩ := descendants_plug frames e
  obtain ⟨below, hbelow⟩ : ∃ below, e.descendants = e :: below := by
    cases e
    exact ⟨_, by rw [descendants]⟩
  rw [hbelow, List.append_assoc, List.cons_append] at h
  refine ⟨front, below ++ back, h, ?_⟩
  have hpairs : pairs (plug frames e) = (plug frames e).descendants.flatMap sent := rfl
  rw [hpairs, h]
  simp

theorem gives_values {bound : Element} (frames : List Frame) (hname : e.get "name" ≠ "")
    (henabled : e.has "disabled" = false) (hkeeps : ∀ x ∈ ["name", "disabled"],
      bound.get? x = e.get? x) {values : List String} (h : controlValues bound = values) :
    Gives frames bound (values.map fun v => (e.get "name", v)) := by
  have hsent : sent bound = values.map fun v => (e.get "name", v) := by
    have hname' : bound.get "name" = e.get "name" := by
      rw [Element.get, hkeeps "name" (by simp), Element.get]
    have henabled' : bound.has "disabled" = false := by
      rwa [has, hkeeps "disabled" (by simp)]
    simp [sent, hname', hname, henabled', h]
  rw [← hsent]
  exact gives_sent frames bound

def IsTextual (e : Element) : Prop :=
  e.tagName = "textarea" ∨
    e.tagName = "input" ∧ isToggle (inputType e) = false ∧ inputType e ∉ idleTypes

def IsChoice (e : Element) (t : String) : Prop :=
  e.tagName = "select" ∧ e.has "multiple" = false ∧ ∃ o ∈ options e, optionValue o = t

def IsSwitch (e : Element) : Prop := e.tagName = "input" ∧ isToggle (inputType e) = true

instance (e : Element) : Decidable (IsSwitch e) := inferInstanceAs (Decidable (_ ∧ _))

/-- A control of a form after the value was written on it: named and enabled as it was, with these
values of its own. -/
def Holds (e : Element) (v : Value) (values : List String) : Prop :=
  ∃ bound, Registry.standard.write e v = .ok bound ∧
    (∀ x ∈ ["name", "disabled"], bound.get? x = e.get? x) ∧ controlValues bound = values

theorem inputType_congr {bound : Element} (h : bound.get? "type" = e.get? "type") :
    inputType bound = inputType e := by
  rw [inputType, Element.get, h, inputType, Element.get]

theorem holds_textual (h : IsTextual e) {v : Value} (ht : v.markup = .ok t) : Holds e v [t] := by
  rcases h with htag | ⟨htag, htoggle, hidle⟩
  · have htarget : Registry.standard.target e.tagName = .content := by rw [htag]; rfl
    have htag' : (e.withText t).tagName = "textarea" := htag
    refine ⟨e.withText t, ?_, fun x _ => rfl, ?_⟩
    · rw [Registry.write_standard, htarget, Target.write, ht]
      rfl
    · simp only [controlValues, htag', textContent_withText]
  · have htarget : Registry.standard.target e.tagName = .input := by rw [htag]; rfl
    have htag' : (e.set "value" t).tagName = "input" := htag
    have htype : inputType (e.set "value" t) = inputType e :=
      inputType_congr (get?_set_ne (by decide))
    refine ⟨e.set "value" t, ?_, ?_, ?_⟩
    · rw [Registry.write_standard, htarget]
      simp only [Target.write, htoggle, ht, Bool.false_eq_true, if_false, Except.map]
    · simp only [List.mem_cons, List.not_mem_nil, or_false]
      rintro x (rfl | rfl) <;> exact get?_set_ne (by decide)
    · simp only [controlValues, htag', htype, htoggle, List.contains_iff_mem, hidle, Element.get,
        get?_set, Bool.false_eq_true, if_false, if_true, Option.getD_some]

theorem holds_choice (h : IsChoice e t) {v : Value} (ht : v.markup = .ok t) : Holds e v [t] := by
  obtain ⟨htag, hsingle, hoption⟩ := h
  have htarget : Registry.standard.target e.tagName = .choice := by rw [htag]; rfl
  have htag' : (e.selectOptions t).tagName = "select" := by
    rw [tagName, tag_selectOptions]
    exact htag
  refine ⟨e.selectOptions t, ?_, ?_, ?_⟩
  · rw [Registry.write_standard, htarget, Target.write, ht]
    rfl
  · simp only [List.mem_cons, List.not_mem_nil, or_false]
    rintro x (rfl | rfl) <;> exact get?_selectOptions (by decide)
  · simp only [controlValues, htag']
    exact chosenOptions_selectOptions hsingle hoption

theorem holds_switch (h : IsSwitch e) (v : Value) :
    Holds e v (if v.isTruthy then [(e.get? "value").getD "on"] else []) := by
  obtain ⟨htag, htoggle⟩ := h
  have htarget : Registry.standard.target e.tagName = .input := by rw [htag]; rfl
  have hidle : inputType e ∉ idleTypes := by
    intro hmem
    have hnone : ∀ type ∈ idleTypes, isToggle type = false := by decide
    rw [hnone _ hmem] at htoggle
    exact Bool.false_ne_true htoggle
  have htag' : (e.toggle "checked" v.isTruthy).tagName = "input" := by
    rw [tagName_toggle, htag]
  have htype : inputType (e.toggle "checked" v.isTruthy) = inputType e :=
    inputType_congr (get?_toggle_ne (by decide))
  refine ⟨e.toggle "checked" v.isTruthy, ?_, ?_, ?_⟩
  · rw [Registry.write_standard, htarget, Target.write, if_pos htoggle]
  · simp only [List.mem_cons, List.not_mem_nil, or_false]
    rintro x (rfl | rfl) <;> exact get?_toggle_ne (by decide)
  · simp only [controlValues, htag', htype, htoggle, List.contains_iff_mem, hidle, has_toggle,
      get?_toggle_ne (show "checked" ≠ "value" by decide), if_false, if_true]

/-- In a form, the element with the value written on it gives these values under its name. -/
def Submits (frames : List Frame) (e : Element) (v : Value) (values : List String) : Prop :=
  ∃ bound, Registry.standard.write e v = .ok bound ∧
    Gives frames bound (values.map fun value => (e.get "name", value))

theorem Holds.submits {v : Value} {values : List String} (h : Holds e v values)
    (frames : List Frame) (hname : e.get "name" ≠ "") (henabled : e.has "disabled" = false) :
    Submits frames e v values := by
  obtain ⟨bound, hwrite, hkeeps, hvalues⟩ := h
  exact ⟨bound, hwrite, gives_values frames hname henabled hkeeps hvalues⟩

/-- What is written on a named and enabled control is what a form around it sends for it: a control
that holds a text and a choice that has the value as an option send the text of the value, and a
switch sends something exactly if the value counts as true. -/
theorem submits_write (frames : List Frame) {v : Value} (hname : e.get "name" ≠ "")
    (henabled : e.has "disabled" = false) :
    (∀ t, v.markup = .ok t → IsTextual e ∨ IsChoice e t → Submits frames e v [t]) ∧
      (IsSwitch e →
        Submits frames e v (if v.isTruthy then [(e.get? "value").getD "on"] else [])) := by
  refine ⟨fun t ht hkind => ?_, fun hswitch => ?_⟩
  · rcases hkind with htextual | hchoice
    · exact (holds_textual htextual ht).submits frames hname henabled
    · exact (holds_choice hchoice ht).submits frames hname henabled
  · exact (holds_switch hswitch v).submits frames hname henabled

def order : List Frame :=
  let hidden := .mk (.named "input") [("name", "size"), ("value", "m")] "" []
  [⟨.named "form", [], "", [(hidden, "")], "", []⟩, ⟨.named "p", [], "Size: ", [], "", []⟩]

def size : Element :=
  .mk (.named "SELECT") [("name", "size")] "" [
    (.mk (.named "optgroup") [] "" [(.mk (.named "option") [("value", "m")] "Medium" [], "")], ""),
    (.mk (.named "option") [] " m " [], ""),
    (.mk (.named "option") [("value", "s"), ("selected", "")] "Small" [], "")]

def gift : Element :=
  .mk (.named "input") [("type", "CheckBox"), ("name", "gift"), ("checked", "")] "" []

theorem submits_write_size :
    Submits order size (.text "m") ["m"] ∧ Submits order gift (.bool true) ["on"] ∧
      Submits order gift (.bool false) [] := by
  have ht : (Value.text "m").markup = .ok "m" := by rw [Value.markup, Value.markupIn]
  have hchoice : IsChoice size "m" := by
    refine ⟨by decide, by decide, .mk (.named "option") [] " m " [], ?_, by decide⟩
    simp [options, size, descendants, descendantsOf, isTagged]
  have hswitch : IsSwitch gift := by decide
  exact ⟨(submits_write order (by decide) (by decide)).1 "m" ht (.inr hchoice),
    (submits_write order (by decide) (by decide)).2 hswitch,
    (submits_write order (by decide) (by decide)).2 hswitch⟩

end Form
end Microdata
