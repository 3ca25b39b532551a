import Microdata.Markup.Page
import Microdata.Proofs.Markup.Tags
import Microdata.Proofs.Markup.Traversal
set_option autoImplicit false

namespace Microdata
namespace Markup

theorem IsUnqualified.qualified?_eq_none {name : String} (h : IsUnqualified name) :
    qualified? name = none := by
  rw [qualified?]
  split
  · rename_i heq
    exact absurd (by rw [heq]; rfl) h
  · rfl

theorem writtenName_eq {name : String} (h : IsUnqualified name) (spaces : Spaces) :
    writtenName spaces name = name := by
  rw [writtenName, h.qualified?_eq_none]

theorem spacesOf_eq_ok {names : List String} (h : ∀ n ∈ names, IsUnqualified n) (known : Spaces) :
    spacesOf known names = .ok known := by
  induction names with
  | nil => rfl
  | cons n names ih =>
    have hn := (h n (List.mem_cons_self ..)).qualified?_eq_none
    simp only [spacesOf, hn]
    exact ih fun m hm => h m (List.mem_cons_of_mem _ hm)

theorem toList_writeAttributes {as : List (String × String)}
    (h : ∀ p ∈ as, IsUnqualified p.1) :
    (writeAttributes [] as).toList = as.flatMap attributeText := by
  have hone : ∀ p ∈ as,
      (" " ++ writtenName [] p.1 ++ "=\"" ++ escapeValue p.2 ++ "\"").toList = attributeText p := by
    intro p hp
    simp [writtenName_eq (h p hp), attributeText, escapeValue]
  rw [writeAttributes, String.toList_join, List.flatMap_map, List.flatMap_def, List.flatMap_def]
  exact congrArg List.flatten (List.map_congr_left hone)

def contentText (tag text : String) : List Char :=
  if isRaw tag then text.toList else text.toList.flatMap escapeTextChar

theorem toList_writeElement {tag text : String} {as : List (String × String)}
    {children : List Child} (h : IsRead (.mk (.named tag) as text children) tag)
    (hr : IsRepeatable (.mk (.named tag) as text children) tag) :
    (writeElement [] "" (.mk (.named tag) as text children)).toList =
      '<' :: (tag.toList ++ (as.flatMap attributeText ++
        '>' :: (contentText tag text ++ ((writeChildren [] children).toList ++
          if isVoid tag then [] else '<' :: '/' :: (tag.toList ++ ['>']))))) := by
  have hname := writtenName_eq (isUnqualified_of_letter h.name.letter) []
  have has : (writeAttributes [] as).toList = as.flatMap attributeText :=
    toList_writeAttributes hr.unqualified
  have htext : (if tag == "script" || tag == "style" then text else escapeText text).toList =
      contentText tag text := by
    rw [contentText, isRaw, escapeText]
    split
    · rfl
    · rw [String.toList_ofList]
  rw [writeElement, hname, h.name.lower, hr.closes, ← htext]
  generalize (if tag == "script" || tag == "style" then text else escapeText text) = content
  cases isVoid tag with
  | false => simp [has]
  | true => simp [has]

theorem head?_writeElement (spaces : Spaces) (declared : String) (e : Element) :
    (writeElement spaces declared e).toList.head? = some '<' := by
  obtain ⟨tag, as, text, children⟩ := e
  cases tag with
  | comment => simp [writeElement]
  | named tag => simp [writeElement]

theorem head?_writeChildren (cs : List Child) {rest : List Char}
    (hrest : ∀ c ∈ rest.head?, c = '<') :
    ∀ c ∈ ((writeChildren [] cs).toList ++ rest).head?, c = '<' := by
  cases cs with
  | nil => simpa [writeChildren] using hrest
  | cons child cs =>
    intro c hc
    simpa [writeChildren, head?_writeElement, List.head?_append] using hc.symm

theorem map_events (read : Except Fault (List Event)) (first then_ : List Event) :
    (read.map (then_ ++ ·)).map (first ++ ·) = read.map (first ++ then_ ++ ·) := by
  cases read with
  | error f => rfl
  | ok events => simp only [Except.map, List.append_assoc]

mutual
theorem eventsFrom_writeElement {e : Element} (h : Repeats e) (rest : List Char) :
    eventsFrom none ((writeElement [] "" e).toList ++ rest) =
      (eventsFrom none rest).map (elementEvents e ++ ·) := by
  match e with
  | .mk tag as text children =>
    obtain ⟨name, hread, hrepeatable⟩ := h _ (List.mem_cons_self ..)
    obtain rfl : tag = .named name := hread.tag_eq
    have hattributes : AreRead as := hread.attributes
    have hstart := eventsFrom_start hread.name hattributes.names hattributes.distinct
    have hstop := eventsFrom_stop hread.name hrepeatable.ends rest
    rw [toList_writeElement hread hrepeatable, elementEvents]
    -- without an end tag there is no content either, so the text behind follows the start tag
    cases hv : isVoid name with
    | true =>
      obtain ⟨rfl, rfl⟩ : text = "" ∧ children = [] := hread.hollow hv
      have hraw := isRaw_of_isVoid hv
      simpa [writeChildren, contentText, opensRaw?, hraw] using hstart rest
    | false =>
      have hwritten : ('<' :: (name.toList ++ (as.flatMap attributeText ++
          '>' :: (contentText name text ++ ((writeChildren [] children).toList ++
            '<' :: '/' :: (name.toList ++ ['>'])))))) ++ rest =
          '<' :: (name.toList ++ (as.flatMap attributeText ++
            '>' :: (contentText name text ++ ((writeChildren [] children).toList ++
              '<' :: '/' :: (name.toList ++ '>' :: rest))))) := by
        simp
      simp only [Bool.false_eq_true, if_false]
      rw [hwritten, hstart]
      cases hraw : isRaw name with
      | true =>
        obtain ⟨rfl, htext⟩ : children = [] ∧ Unclosed name.toList text.toList := hread.raw hraw
        have hdata := eventsFrom_raw hraw htext rest
        simp only [opensRaw?, hraw, if_true, contentText, writeChildren, String.toList_empty,
          List.nil_append]
        rw [hdata, map_events, childrenEvents]
        simp only [List.cons_append, List.nil_append, List.append_assoc]
      | false =>
        have hinside : ∀ d ∈ Element.descendantsOf children,
            ∃ tag, IsRead d tag ∧ IsRepeatable d tag := fun d hd => h d (List.mem_cons_of_mem _ hd)
        have hclose : ∀ c ∈ ('<' :: '/' :: (name.toList ++ '>' :: rest)).head?, c = '<' := by simp
        simp only [opensRaw?, hraw, Bool.false_eq_true, if_false, contentText]
        rw [eventsFrom_text text (head?_writeChildren children hclose),
          eventsFrom_writeChildren hinside hclose, hstop, map_events, map_events, map_events]
        simp only [List.cons_append, List.nil_append, List.append_assoc]

theorem eventsFrom_writeChildren {cs : List Child}
    (h : ∀ d ∈ Element.descendantsOf cs, ∃ tag, IsRead d tag ∧ IsRepeatable d tag)
    {rest : List Char} (hrest : ∀ c ∈ rest.head?, c = '<') :
    eventsFrom none ((writeChildren [] cs).toList ++ rest) =
      (eventsFrom none rest).map (childrenEvents cs ++ ·) := by
  match cs with
  | [] =>
    rw [writeChildren, childrenEvents, String.toList_empty, List.nil_append]
    cases eventsFrom none rest with
    | error f => rfl
    | ok events => rfl
  | (e, tail) :: others =>
    have he : Repeats e := fun d hd => h d (List.mem_append_left _ hd)
    have hothers : ∀ d ∈ Element.descendantsOf others, ∃ tag, IsRead d tag ∧ IsRepeatable d tag :=
      fun d hd => h d (List.mem_append_right _ hd)
    have hwritten : (writeChildren [] ((e, tail) :: others)).toList ++ rest =
        (writeElement [] "" e).toList ++
          (tail.toList.flatMap escapeTextChar ++ ((writeChildren [] others).toList ++ rest)) := by
      simp [writeChildren, escapeText]
    rw [hwritten, eventsFrom_writeElement he,
      eventsFrom_text tail (head?_writeChildren others hrest),
      eventsFrom_writeChildren hothers hrest, map_events, map_events, childrenEvents,
      List.append_assoc]
end

theorem isUnqualified_of_mem_ownNames {e : Element} (h : Repeats e) :
    ∀ n ∈ e.descendants.flatMap ownNames, IsUnqualified n := by
  intro n hn
  obtain ⟨d, hd, hn⟩ := List.mem_flatMap.mp hn
  obtain ⟨tag, hread, hrepeatable⟩ := h d hd
  rw [ownNames, hread.tag_eq, List.mem_cons] at hn
  rcases hn with rfl | hn
  · exact isUnqualified_of_letter hread.name.letter
  · obtain ⟨p, hp, rfl⟩ := List.mem_map.mp hn
    exact hrepeatable.unqualified p hp

theorem html_of_repeats {e : Element} (h : Repeats e) : e.html = .ok (writeElement [] "" e) := by
  have hdeclared : declarations [] = "" := by simp [declarations]
  rw [Element.html, spacesOf_eq_ok (isUnqualified_of_mem_ownNames h)]
  change Except.ok (writeElement [] (declarations []) e) = _
  rw [hdeclared]

theorem html_of_isExpressible {e : Element} (h : IsExpressible e) :
    e.html = .ok (writeElement [] "" e) := html_of_repeats h.repeats

theorem events_writeElement {e : Element} (h : IsExpressible e) :
    events (writeElement [] "" e) = .ok (elementEvents e) := by
  have hread := eventsFrom_writeElement h.repeats []
  rw [List.append_nil, eventsFrom] at hread
  rw [events, hread, Except.map, List.append_nil]

/-- The page of a text without a location: one that the text itself gives stands for itself. -/
theorem parsePage_of_events {text : String} {es : List Event} (h : events text = .ok es) :
    ∃ base, parsePage text "" = .ok ⟨build es, base⟩ := by
  rw [parsePage, h]
  dsimp only [bind, Except.bind]
  cases baseReference? (build es) with
  | none => exact ⟨"", rfl⟩
  | some href => exact ⟨href, rfl⟩

/-- An element that the notation can express is written, and what is written is that element and
nothing else, so that no text and no value of an attribute adds, removes or moves an element. -/
theorem parseElement_html {e : Element} (h : IsExpressible e) :
    ∃ s, e.html = .ok s ∧ parseElement s = .ok e := by
  refine ⟨writeElement [] "" e, html_of_isExpressible h, ?_⟩
  obtain ⟨base, hpage⟩ := parsePage_of_events (events_writeElement h)
  rw [parseElement, hpage, build_elementEvents h]
  rfl

def deceptive : Element :=
  .mk (.named "p") [("data-x", "\"><b>&amp;&lt"), ("title", "'")] "1 < 2 &amp; </p>"
    [(.mk (.named "br") [("id", "a=\"b\"")] "" [], " &#60;i&#62; "),
      (.mk (.named "em") [] "<script>" [], "&")]

theorem parseElement_html_deceptive :
    IsExpressible deceptive ∧ ∃ s, deceptive.html = .ok s ∧ parseElement s = .ok deceptive := by
  have h : IsExpressible deceptive := by
    intro d hd
    simp only [deceptive, Element.descendants, Element.descendantsOf, List.mem_cons,
      List.append_nil, List.cons_append, List.nil_append, List.not_mem_nil, or_false] at hd
    rcases hd with rfl | rfl | rfl
    · exact ⟨"p", rfl, by decide, by decide, by decide, by decide, by decide, by simp [closedBy]⟩
    · exact ⟨"br", rfl, by decide, by decide, by decide, by decide, by simp, by simp⟩
    · exact ⟨"em", rfl, by decide, by decide, by decide, by decide, by decide, by simp⟩
  exact ⟨h, parseElement_html h⟩

end Markup
end Microdata
