import Microdata.Binding.Registry
import Microdata.Extraction
set_option autoImplicit false

namespace Microdata

namespace Registry

def target (r : Registry) (tag : String) : Target := ((r.find? tag).getD r.fallback).target

theorem target_write_of_write {r : Registry} {e e' : Element} {v : Value}
    (h : r.write e v = .ok e') : (r.target e.tagName).write e v = .ok e' :=
  (Setter.write_eq_ok.mp h).2

/-- There are instances of all built-in setters. -/
theorem obstacle_standard (e : Element) : (standard.setterFor e).obstacle = none := by
  unfold setterFor find?
  cases h : standard.entries.find? fun p => p.1 == e.tagName with
  | none => rfl
  | some entry =>
    exact (show ∀ entry ∈ standard.entries, entry.2.obstacle = none by decide) entry
      (List.mem_of_find?_eq_some h)

theorem write_standard (e : Element) (v : Value) :
    standard.write e v = (standard.target e.tagName).write e v :=
  Setter.write_of_free (obstacle_standard e) e v

def knownTags : List String := standard.entries.map (·.1)

theorem target_of_unknown {tag : String} (h : tag ∉ knownTags) :
    standard.target tag = .content := by
  have hnone : standard.find? tag = none := by
    rw [find?, Option.map_eq_none_iff, List.find?_eq_none]
    intro p hp hq
    exact h (List.mem_map.mpr ⟨p, hp, beq_iff_eq.mp hq⟩)
  rw [target, hnone]
  rfl

theorem valueAttribute?_of_unknown {tag : String} (h : tag ∉ knownTags) (ha : tag ≠ "a")
    (harea : tag ≠ "area") : valueAttribute? tag = none := by
  unfold valueAttribute?
  split <;> simp_all [knownTags, standard]

theorem target_eq {tag : String} (h : tag ∉ ["a", "area", "input", "select", "option"]) :
    standard.target tag = (valueAttribute? tag).elim .content .attribute := by
  by_cases hknown : tag ∈ knownTags
  · revert h
    exact (show ∀ tag ∈ knownTags, tag ∉ ["a", "area", "input", "select", "option"] →
      standard.target tag = (valueAttribute? tag).elim .content .attribute by decide) tag hknown
  · simp only [List.mem_cons, List.not_mem_nil, or_false, not_or] at h
    rw [target_of_unknown hknown, valueAttribute?_of_unknown hknown h.1 h.2.1]
    rfl

end Registry

namespace Element

variable {e : Element} {n s t x w : String} {on : Bool}

theorem get?_set_ne (h : n ≠ x) : (e.set n s).get? x = e.get? x := by
  rw [get?_set, if_neg h]

theorem get?_toggle_ne (h : n ≠ x) : (e.toggle n on).get? x = e.get? x := by
  cases on with
  | true => exact get?_set_ne h
  | false =>
    change (e.remove n).get? x = _
    rw [get?_remove, if_neg h]

theorem has_toggle : (e.toggle n on).has n = on := by
  cases on with
  | true =>
    change ((e.set n n).get? n).isSome = true
    rw [get?_set, if_pos rfl]
    rfl
  | false =>
    change ((e.remove n).get? n).isSome = false
    rw [get?_remove, if_pos rfl]
    rfl

theorem tag_toggle : (e.toggle n on).tag = e.tag := by
  cases on <;> rfl

theorem tagName_toggle : (e.toggle n on).tagName = e.tagName := by
  rw [tagName, tag_toggle]
  rfl

/-- What selecting does to an element apart from what stands in it. -/
theorem selectOptions_eq (w : String) (e : Element) : e.selectOptions w =
    .mk e.tag
      (if e.isTagged "option" then (e.toggle "selected" (Form.optionValue e == w)).attributes
        else e.attributes)
      e.text (selectOptionsBelow w e.children) := by
  cases e with
  | mk tag attributes text children =>
    rw [selectOptions]
    split
    · rfl
    · rfl

theorem tag_selectOptions (w : String) (e : Element) : (e.selectOptions w).tag = e.tag := by
  rw [selectOptions_eq, tag_mk]

theorem get?_selectOptions (h : x ≠ "selected") : (e.selectOptions w).get? x = e.get? x := by
  rw [selectOptions_eq, get?, attributes_mk]
  split
  · exact get?_toggle_ne h.symm
  · rfl

theorem tagName_set (e : Element) (n s : String) : (e.set n s).tagName = e.tagName := rfl

theorem tagName_withText (e : Element) (t : String) : (e.withText t).tagName = e.tagName := rfl

theorem textContent_withText (e : Element) (t : String) : (e.withText t).textContent = t := by
  rw [withText, textContent, textContents, String.append_empty]

theorem plainValue_set (h : valueAttribute? e.tagName = some n) : plainValue (e.set n s) = s := by
  rw [plainValue, tagName_set, h, Option.bind_some, get?_set, if_pos rfl, Option.getD_some]

theorem plainValue_withText (h : valueAttribute? e.tagName = none) :
    plainValue (e.withText t) = Text.strip t := by
  rw [plainValue, tagName_withText, h, textContent_withText]
  rfl

end Element

/-- Whether a setter writes the value as it is into one attribute. -/
def Target.isAttribute : Target → Bool
  | «attribute» _ => true
  | input => true
  | _ => false

namespace Dialect

variable {d : Dialect} {e : Element} {n s t : String} {v : Value}

theorem propertyValue_eq (h : e.has d.vocabulary.scope = false) :
    d.propertyValue e = .ok (.text (plainValue e)) := by
  rw [propertyValue, h, if_neg Bool.false_ne_true]

theorem propertyValue_set (hscope : e.has d.vocabulary.scope = false)
    (hapart : valueAttribute? e.tagName ≠ some d.vocabulary.scope)
    (h : valueAttribute? e.tagName = some n) :
    d.propertyValue (e.set n s) = .ok (.text s) := by
  have hne : n ≠ d.vocabulary.scope := fun he => hapart (he ▸ h)
  rw [propertyValue_eq, Element.plainValue_set h]
  rwa [Element.has, Element.get?_set, if_neg hne]

theorem propertyValue_withText (hscope : e.has d.vocabulary.scope = false)
    (h : valueAttribute? e.tagName = none) :
    d.propertyValue (e.withText t) = .ok (.text (Text.strip t)) := by
  have hbound : (e.withText t).has d.vocabulary.scope = false := hscope
  rw [propertyValue_eq hbound, Element.plainValue_withText h]

/-- What a setter writes is the value of the element: as it is where the setter writes an attribute,
and else without the blanks at its ends. That attribute must not be the one that opens scopes. -/
theorem propertyValue_write (hscope : e.has d.vocabulary.scope = false)
    (hapart : valueAttribute? e.tagName ≠ some d.vocabulary.scope)
    (htag : e.tagName ∉ ["a", "area", "select", "option"])
    (htoggle : ¬ (e.tagName = "input" ∧ Form.isToggle (Form.inputType e) = true))
    (ht : v.markup = .ok t) :
    ∃ bound, Registry.standard.write e v = .ok bound ∧
      d.propertyValue bound = .ok (.text
        (if (Registry.standard.setterFor e).target.isAttribute then t else Text.strip t)) := by
  have htarget : (Registry.standard.setterFor e).target = Registry.standard.target e.tagName := rfl
  rw [Registry.write_standard, htarget]
  by_cases hinput : e.tagName = "input"
  · have htype : Form.isToggle (Form.inputType e) = false := by simpa [hinput] using htoggle
    have hattribute : valueAttribute? e.tagName = some "value" := by rw [hinput]; rfl
    have hwrites : Registry.standard.target e.tagName = .input := by rw [hinput]; rfl
    rw [hwrites]
    refine ⟨e.set "value" t, ?_, propertyValue_set hscope hapart hattribute⟩
    simp only [Target.write, htype, ht, Bool.false_eq_true, if_false, Except.map]
  · rw [Registry.target_eq (by simp_all)]
    cases hattribute : valueAttribute? e.tagName with
    | none =>
      refine ⟨e.withText t, by simp only [Option.elim, Target.write, ht, Except.map], ?_⟩
      exact propertyValue_withText hscope hattribute
    | some n =>
      refine ⟨e.set n t, by simp only [Option.elim, Target.write, ht, Except.map], ?_⟩
      exact propertyValue_set hscope hapart hattribute

def hour : Element :=
  .mk (.named "TIME") [("datetime", "old"), ("class", "x")] "soon"
    [(.mk (.named "b") [] "!" [], "")]

def result : Element :=
  .mk (.named "output") [("value", "old")] "2" [(.mk (.named "b") [("value", "3")] "1" [], "4")]

theorem propertyValue_write_hour :
    (∃ bound, Registry.standard.write hour (.text " 9 ") = .ok bound ∧
        ({} : Dialect).propertyValue bound = .ok (.text " 9 ")) ∧
      ∃ bound, Registry.standard.write result (.text " 9 ") = .ok bound ∧
        ({} : Dialect).propertyValue bound = .ok (.text "9") := by
  have ht : (Value.text " 9 ").markup = .ok " 9 " := by rw [Value.markup, Value.markupIn]
  have hattribute : (Registry.standard.setterFor hour).target.isAttribute = true := by decide
  have hcontent : (Registry.standard.setterFor result).target.isAttribute = false := by decide
  have hstrip : Text.strip " 9 " = "9" := by decide
  obtain ⟨bound, hwrite, hread⟩ := propertyValue_write (d := {}) (e := hour)
    (by decide) (by decide) (by decide) (by decide) ht
  rw [hattribute, if_pos rfl] at hread
  obtain ⟨bound', hwrite', hread'⟩ := propertyValue_write (d := {}) (e := result)
    (by decide) (by decide) (by decide) (by decide) ht
  rw [hcontent, if_neg Bool.false_ne_true, hstrip] at hread'
  exact ⟨⟨bound, hwrite, hread⟩, bound', hwrite', hread'⟩

end Dialect
end Microdata
