import Mathlib.Data.List.Nodup
import Microdata.Proofs.Binding.Attributes
import Microdata.Proofs.Binding.Filling
set_option autoImplicit false

namespace Microdata

open Reported

namespace Placeholder

theorem toList_append_mark (s : String) : (s ++ "[]").toList = s.toList ++ '[' :: [']'] :=
  String.toList_append ..

theorem includes_append_mark (s : String) :
    Text.includes ['$', '\x7b'] (s ++ "[]").toList = Text.includes ['$', '\x7b'] s.toList := by
  have hmark : Text.includes ['$', '\x7b'] ('[' :: [']']) = false := by decide
  rw [toList_append_mark, Text.includes_append_cons (by decide), hmark, Bool.or_false]

theorem substitute_append_mark (record : Value) (s : String) :
    substitute record (s ++ "[]") = (substitute record s).map (· ++ "[]") := by
  cases record with
  | record fields =>
    have hopen : Foreign '[' := ⟨by decide, by decide, by decide⟩
    have hmark : fill fields ['[', ']'] = .ok ['[', ']'] := by
      rw [fill_other (by decide), fill_other (by decide), fill]
      rfl
    simp only [substitute]
    rw [toList_append_mark, hopen.fill_append, hmark]
    cases fill fields s.toList with
    | error f => rfl
    | ok cs => exact congrArg Except.ok String.ofList_append
  | _ => rfl

theorem substitute_of_not_begins (record : Value) {s : String}
    (h : Text.includes ['$', '\x7b'] s.toList = false) : substitute record s = .ok s := by
  cases record with
  | record fields =>
    have hnot : ¬ Holds s.toList := by
      rintro ⟨a, name, b, -, -, hs⟩
      have hbegins : Text.includes ['$', '\x7b'] s.toList = true :=
        Text.includes_iff.mpr ⟨a, name ++ ['\x7d'] ++ b, by simp [hs, written]⟩
      cases h.symm.trans hbegins
    simp only [substitute]
    rw [fill_of_not_holds fields hnot]
    exact congrArg Except.ok String.ofList_toList
  | _ => rfl

end Placeholder

namespace Pattern

variable {path property : String} {e : Element}

theorem get?_of_isArray (harray : (shapeOf {} path e).isArray = true)
    (hproperty : (shapeOf {} path e).property = some property) :
    e.get? "itemprop" = some (property ++ "[]") := by
  have hmarked : (nonempty? (e.get "itemprop")).bind (withoutSuffix? "[]") = some property := by
    have hchosen : (shapeOf {} path e).property =
        (nonempty? (e.get "itemprop")).bind (withoutSuffix? "[]") := if_pos harray
    exact hchosen.symm.trans hproperty
  obtain ⟨name, hname, hstem⟩ := Option.bind_eq_some_iff.mp hmarked
  have hwritten : e.get "itemprop" = property ++ "[]" := by
    rw [nonempty?] at hname
    split at hname
    · cases hname
    · cases hname
      exact eq_append_of_withoutSuffix? (by decide) hstem
  rw [Element.get] at hwritten
  cases hget : e.get? "itemprop" with
  | none =>
    rw [hget] at hwritten
    have hnil := congrArg String.toList hwritten
    simp at hnil
  | some text =>
    rw [hget] at hwritten
    exact congrArg some hwritten

end Pattern

namespace Renderer

variable {r : Renderer} {s : Shape} {c : Context} {record : Value} {property x : String}
  {begun e e' : Element} {es : List Element} {ds : List Diagnostic}

theorem get?_fillAttributes_of_mem {templates : List (String × String)} {text : String}
    (hd : (templates.map (·.1)).Nodup) (hmem : (x, text) ∈ templates)
    (h : fillAttributes record e templates = .ok e') :
    ∃ filled, Placeholder.substitute record text = .ok filled ∧ e'.get? x = some filled := by
  induction templates generalizing e with
  | nil => cases hmem
  | cons p rest ih =>
    obtain ⟨filled, hfilled, hrest⟩ := bind_eq_ok.mp h
    obtain ⟨hnot, hd⟩ := List.nodup_cons.mp hd
    obtain rfl | hmem := List.mem_cons.mp hmem
    · refine ⟨filled, hfilled, (get?_fillAttributes hrest hnot).trans ?_⟩
      rw [Element.get?_set, if_pos rfl]
    · exact ih hd hmem hrest

/-- What a copy for an element that stands for a list begins with: its property, filled, and the
mark once more if the property begins a placeholder. -/
theorem get?_start (hv : r.config.vocabulary = {})
    (hs : s = Pattern.shapeOf {} s.path s.element)
    (hd : (s.element.attributes.map (·.1)).Nodup) (harray : s.isArray = true)
    (hproperty : s.property = some property) (h : Gives (r.start s record) begun) :
    ∃ name, Placeholder.substitute record property = .ok name ∧
      begun.get? "itemprop" =
        some (if Text.includes ['$', '\x7b'] property.toList then name ++ "[]" else name) := by
  have hfill := gives_start h
  have hplaceholders : s.placeholders =
      s.element.attributes.filter fun p => Text.includes ['$', '\x7b'] p.2.toList :=
    congrArg Shape.placeholders hs
  have hnames : (s.placeholders.map (·.1)).Nodup :=
    hplaceholders ▸ hd.sublist (List.filter_sublist.map _)
  have hmem : ("itemprop", property ++ "[]") ∈ s.element.attributes :=
    mem_of_lookup? (Pattern.get?_of_isArray (hs ▸ harray) (hs ▸ hproperty))
  have hbegins := Placeholder.includes_append_mark property
  cases hcase : Text.includes ['$', '\x7b'] property.toList with
  | true =>
    have hfilled : ("itemprop", property ++ "[]") ∈ s.placeholders :=
      hplaceholders ▸ List.mem_filter.mpr ⟨hmem, hbegins.trans hcase⟩
    obtain ⟨text, htext, hget⟩ := get?_fillAttributes_of_mem hnames hfilled hfill
    rw [Placeholder.substitute_append_mark] at htext
    obtain ⟨name, hname, rfl⟩ := map_eq_ok.mp htext
    exact ⟨name, hname, hget⟩
  | false =>
    refine ⟨property, Placeholder.substitute_of_not_begins record hcase, ?_⟩
    have hkept : "itemprop" ∉ s.placeholders.map (·.1) := by
      intro hin
      obtain ⟨⟨_, text⟩, hfilled, rfl⟩ := List.mem_map.mp hin
      obtain ⟨hattribute, htext⟩ := List.mem_filter.mp (hplaceholders ▸ hfilled)
      obtain rfl : text = property ++ "[]" :=
        congrArg Prod.snd (List.inj_on_of_nodup_map hd hattribute hmem rfl)
      cases hcase.symm.trans (hbegins.symm.trans htext)
    rw [get?_fillAttributes hfill hkept, unmarked, harray, hproperty, hv]
    exact (Element.get?_set ..).trans (if_pos rfl)

theorem not_mem_writtenAttributes (tag : String) :
    "itemprop" ∉ Registry.writtenAttributes tag := by
  unfold Registry.writtenAttributes
  split <;> decide

theorem BegunFor.get?_binding (hr : r.setters = .standard) (hv : r.config.vocabulary = {})
    (hs : s = Pattern.shapeOf {} s.path s.element)
    (hd : (s.element.attributes.map (·.1)).Nodup) (harray : s.isArray = true)
    (hproperty : s.property = some property) (h : BegunFor r s record e) :
    ∃ name, Placeholder.substitute record property = .ok name ∧
      e.get? "itemprop" =
        some (if Text.includes ['$', '\x7b'] property.toList then name ++ "[]" else name) := by
  obtain ⟨begun, hstart, hdressed⟩ := h
  have hset : ¬ r.setters.Changes begun "itemprop" := by
    rw [hr]
    exact fun hc => not_mem_writtenAttributes _ (Registry.mem_writtenAttributes hc)
  have hlocation : s.isScope = true → "itemprop" ≠ r.config.vocabulary.itemId := by
    rw [hv]
    exact fun _ => by decide
  rw [hdressed.get?_eq hset hlocation]
  exact get?_start hv hs hd harray hproperty hstart

/-- Every element that is given for a list is bound to the property of the list, without its mark,
with the placeholders filled from the record that the element was begun for. Only if the property
itself begins a placeholder is the mark behind it again. -/
theorem binding_of_list {root : Element} {p : Pattern} (hp : p ∈ (Pattern.analyze {} root).walk)
    (hr : r.setters = .standard) (hv : r.config.vocabulary = {})
    (hd : (p.shape.element.attributes.map (·.1)).Nodup) (harray : p.shape.isArray = true)
    (hproperty : p.shape.property = some property) (h : (r.renderAt c p).run = .ok (es, ds)) :
    ∀ e ∈ es, ∃ record, Copies r p c record e ∧
      ∃ name, Placeholder.substitute record property = .ok name ∧
        e.get? "itemprop" =
          some (if Text.includes ['$', '\x7b'] property.toList then name ++ "[]" else name) := by
  intro e he
  obtain ⟨record, hcopy⟩ := exists_copies hp h he
  exact ⟨record, hcopy,
    hcopy.begunFor.get?_binding hr hv (shape_of_mem_walk hp) hd harray hproperty⟩

theorem binding_of_list_tasks :
    Pattern.analyze {} box ∈ (Pattern.analyze {} box).walk ∧
      (box.attributes.map (·.1)).Nodup ∧ (Pattern.analyze {} box).shape.isArray = true ∧
      (Pattern.analyze {} box).shape.property = some "tasks" ∧
      ∃ e, (({} : Renderer).renderAt (.ofRoot day [day] "") (Pattern.analyze {} box)).run =
          .ok ([e], []) ∧
        e.get? "itemprop" = some "tasks" ∧
        ∃ record, Copies {} (Pattern.analyze {} box) (.ofRoot day [day] "") record e ∧
          Placeholder.substitute record "tasks" = .ok "tasks" := by
  have hp : Pattern.analyze {} box ∈ (Pattern.analyze {} box).walk := List.mem_cons_self ..
  have hd : (box.attributes.map (·.1)).Nodup := by decide
  have harray : (Pattern.analyze {} box).shape.isArray = true := by decide
  have hproperty : (Pattern.analyze {} box).shape.property = some "tasks" := by decide
  obtain ⟨e, hrun, he⟩ := renderAt_box
  have hbound : e.get? "itemprop" = some "tasks" := by
    rw [Element.get?, he]
    rfl
  obtain ⟨record, hcopy, name, hname, hget⟩ := binding_of_list (r := {}) hp rfl rfl hd harray
    hproperty hrun e (List.mem_singleton_self e)
  obtain rfl : "tasks" = name := Option.some.inj (hbound.symm.trans hget)
  exact ⟨hp, hd, harray, hproperty, e, hrun, hbound, record, hcopy, hname⟩

def line : Element := .mk (.named "li") [("itemprop", "$\x7bk\x7d[]")] "x" []

def chapter : Value := .record [(.text "k", .text "v")]

theorem not_binding_of_list : ¬ ∀ es ds,
    (({} : Renderer).renderAt (.ofRoot chapter [chapter] "") (Pattern.analyze {} line)).run =
      .ok (es, ds) →
    ∀ e ∈ es, ∃ record,
      Copies {} (Pattern.analyze {} line) (.ofRoot chapter [chapter] "") record e ∧
      ∃ name, Placeholder.substitute record "$\x7bk\x7d" = .ok name ∧
        e.get? "itemprop" = some name := by
  intro hall
  have hone : (({} : Renderer).renderAt (.ofRoot chapter [chapter] "")
      (Pattern.analyze {} line)).run.toOption.map (fun (es, _) => es.length) = some 1 := by
    decide +kernel
  obtain ⟨⟨es, ds⟩, hrun, hlength⟩ := exists_of_toOption_map hone
  obtain ⟨e, rfl⟩ := List.length_eq_one_iff.mp hlength
  obtain ⟨record, hcopy, name, hname, hget⟩ := hall _ _ hrun e (List.mem_singleton_self e)
  have hp : Pattern.analyze {} line ∈ (Pattern.analyze {} line).walk := List.mem_cons_self ..
  have hproperty : (Pattern.analyze {} line).shape.property = some "$\x7bk\x7d" := by decide
  have hbegins : Text.includes ['$', '\x7b'] "$\x7bk\x7d".toList = true := by decide
  obtain ⟨name', hname', hget'⟩ := hcopy.begunFor.get?_binding rfl rfl (shape_of_mem_walk hp)
    (by decide) (by decide) hproperty
  cases hname.symm.trans hname'
  rw [if_pos hbegins] at hget'
  have hsame := congrArg String.length (Option.some.inj (hget.symm.trans hget'))
  simp at hsame

end Renderer
end Microdata
