import Microdata.Proofs.Markup.Reading
import Microdata.Proofs.Markup.RoundTrip
set_option autoImplicit false

namespace Microdata
namespace Markup

def beginsMarkup (c : Char) : Bool := c.isAlpha || c == '/' || c == '!' || c == '?'

/-- A text that is read as it stands: no reference and no markup begins in it. -/
inductive IsLiteral : List Char → Prop
  | nil : IsLiteral []
  | mark {rest : List Char} (hmark : ∀ c ∈ rest.head?, beginsMarkup c = false)
    (h : IsLiteral rest) : IsLiteral ('<' :: rest)
  | run {run rest : List Char} (hrun : '<' ∉ run) (hrefs : unescape run = .ok (String.ofList run))
    (hstop : ∀ c ∈ rest.head?, c = '<') (h : IsLiteral rest) : IsLiteral (run ++ rest)

theorem construct_mark {cs : List Char} (h : ∀ c ∈ cs.head?, beginsMarkup c = false) :
    construct cs = .ok ([.data "<"], 0) := by
  cases cs with
  | nil => rfl
  | cons c cs =>
    have hc := h c rfl
    simp only [beginsMarkup, Bool.or_eq_false_iff, beq_eq_false_iff_ne] at hc
    obtain ⟨⟨⟨hletter, hslash⟩, hbang⟩, hquestion⟩ := hc
    unfold construct
    split
    · exact absurd (List.cons.inj ‹_›).1 hslash
    · exact absurd (List.cons.inj ‹_›).1 hbang
    · exact absurd (List.cons.inj ‹_›).1 hquestion
    · rename_i heq
      cases heq
      rw [hletter]
      rfl
    · rename_i heq
      cases heq

def textBuilder (text : String) : Builder := ⟨[], .mk Document.rootTag [] text []⟩

theorem head?_append_of_stop {cs rest : List Char} (hcs : ∀ c ∈ cs.head?, c = '<')
    (hrest : ∀ c ∈ rest.head?, c = '<') : ∀ c ∈ (cs ++ rest).head?, c = '<' := by
  cases cs with
  | nil => exact hrest
  | cons c cs => exact hcs

theorem eventsFrom_literal {cs : List Char} (h : IsLiteral cs) :
    ∃ es : List Event,
      (∀ text, es.foldl Builder.step (textBuilder text) = textBuilder (text ++ String.ofList cs)) ∧
      ∀ rest, (∀ c ∈ rest.head?, c = '<') →
        eventsFrom none (cs ++ rest) = (eventsFrom none rest).map (es ++ ·) := by
  induction h with
  | nil =>
    refine ⟨[], fun text => by simp, fun rest _ => ?_⟩
    rw [List.nil_append]
    cases eventsFrom none rest with
    | error f => rfl
    | ok es => rfl
  | @mark cs hmark _ ih =>
    obtain ⟨es, hes, hread⟩ := ih
    refine ⟨.data "<" :: es, fun text => ?_, fun rest hrest => ?_⟩
    · have hstep : (textBuilder text).step (.data "<") = textBuilder (text ++ "<") := rfl
      rw [List.foldl_cons, hstep, hes]
      simp [String.append_assoc]
    · have hnext : ∀ c ∈ (cs ++ rest).head?, beginsMarkup c = false := by
        cases cs with
        | nil =>
          intro c hc
          rw [hrest c hc]
          decide
        | cons c cs => exact hmark
      have hconstruct : construct (cs ++ rest) = .ok ([.data "<"], ([] : List Char).length) :=
        construct_mark hnext
      rw [List.cons_append, eventsFrom_construct (List.nil_append _).symm hconstruct]
      change (eventsFrom none (cs ++ rest)).map _ = _
      rw [hread rest hrest, map_events]
      rfl
  | @run run cs hrun hrefs hstop _ ih =>
    obtain ⟨es, hes, hread⟩ := ih
    refine ⟨dataEvent (String.ofList run) ++ es, fun text => ?_, fun rest hrest => ?_⟩
    · have hdata : (dataEvent (String.ofList run)).foldl Builder.step (textBuilder text) =
          textBuilder (text ++ String.ofList run) := Builder.foldl_dataEvent ..
      rw [List.foldl_append, hdata, hes, String.ofList_append, String.append_assoc]
    · rw [List.append_assoc, eventsFrom_run hrun hrefs (head?_append_of_stop hstop hrest),
        hread rest hrest, map_events]

theorem childrenHtml_eq {cs : List Child}
    (h : ∀ d ∈ Element.descendantsOf cs, ∃ tag, IsRead d tag ∧ IsRepeatable d tag) :
    childrenHtml cs = .ok (writeChildren [] cs) := by
  induction cs with
  | nil => rw [childrenHtml, writeChildren]
  | cons c rest ih =>
    obtain ⟨e, tail⟩ := c
    have he : Repeats e := fun d hd => h d (List.mem_append_left _ hd)
    have hrest := ih fun d hd => h d (List.mem_append_right _ hd)
    rw [childrenHtml, writeChildren, html_of_repeats he, hrest]
    rfl

theorem root_of_parsePage {text base : String} {page : Document}
    (h : parsePage text base = .ok page) : ∃ es, events text = .ok es ∧ page.root = build es := by
  obtain ⟨es, hes, hpage⟩ := bind_eq_ok.mp h
  refine ⟨es, hes, ?_⟩
  dsimp only at hpage
  split at hpage
  · cases hpage
    rfl
  · obtain ⟨location, -, hpage⟩ := bind_eq_ok.mp hpage
    cases hpage
    rfl

theorem parsePage_congr {text again base : String} {es es' : List Event} (hes : events text = .ok es)
    (hes' : events again = .ok es') (h : build es = build es') :
    parsePage text base = parsePage again base := by
  rw [parsePage, parsePage, hes, hes']
  dsimp only [bind, Except.bind]
  rw [h]

theorem build_childrenEvents {front : List Event} {text : String} {children : List Child}
    (hfront : front.foldl Builder.step .empty = textBuilder text)
    (h : ∀ d ∈ Element.descendantsOf children, ∃ tag, IsRead d tag ∧ IsRepeatable d tag) :
    build (front ++ childrenEvents children) = .mk Document.rootTag [] text children := by
  have hopen : ∀ c ∈ children, ∀ tag, c.1.tag = .named tag → (textBuilder text).Admits tag := by
    intro c _ tag _ o ho
    cases ho
  rw [build, List.foldl_append, hfront, foldl_childrenEvents h hopen]
  rfl

/-- What is written for a page that has been read is read as that page again. -/
theorem parsePage_html {text base : String} {page : Document} (h : parsePage text base = .ok page)
    (hfront : IsLiteral page.root.text.toList)
    (hbelow : ∀ d ∈ Element.descendantsOf page.root.children, ∀ tag, d.tag = .named tag →
      IsRepeatable d tag) :
    ∃ again, page.html = .ok again ∧ parsePage again base = .ok page := by
  obtain ⟨es, hes, hroot⟩ := root_of_parsePage h
  obtain ⟨front, children, hbuild, hread⟩ := isRead_of_events hes
  rw [hbuild] at hroot
  simp only [hroot, Element.text_mk, Element.children_mk] at hfront hbelow
  have hrepeats : ∀ d ∈ Element.descendantsOf children,
      ∃ tag, IsRead d tag ∧ IsRepeatable d tag := by
    intro d hd
    obtain ⟨tag, hreadd⟩ := hread d hd
    exact ⟨tag, hreadd, hbelow d hd tag hreadd.tag_eq⟩
  obtain ⟨said, hsaid, hfrom⟩ := eventsFrom_literal hfront
  have hagain : events (front ++ writeChildren [] children) =
      .ok (said ++ childrenEvents children) := by
    have hend : ∀ c ∈ ([] : List Char).head?, c = '<' := by simp
    have hall := hfrom _ (head?_writeChildren children hend)
    rw [eventsFrom_writeChildren hrepeats hend, map_events, eventsFrom, List.append_nil] at hall
    rw [events, String.toList_append, hall, Except.map, List.append_nil]
  refine ⟨front ++ writeChildren [] children, ?_, ?_⟩
  · rw [Document.html, hroot]
    change (do .ok (front ++ (← childrenHtml children))) = _
    rw [childrenHtml_eq hrepeats]
    rfl
  · have hsame : build (said ++ childrenEvents children) = build es := by
      rw [build_childrenEvents (hsaid "") hrepeats, hbuild]
      simp
    rw [parsePage_congr hagain hes hsame, h]

theorem parsePage_html_paragraphs :
    let text := "1 < 2 <P CLASS=x>a &amp; b<br>c<p id='y'>d<script>if (a<b) \"</x>\"</script>"
    let children : List Child :=
      [(.mk (.named "p") [("class", "x")] "a & b" [(.mk (.named "br") [] "" [], "c")], ""),
        (.mk (.named "p") [("id", "y")] "d"
          [(.mk (.named "script") [] "if (a<b) \"</x>\"" [], "")], "")]
    let page : Document := ⟨.mk Document.rootTag [] "1 < 2 " children, ""⟩
    parsePage text "" = .ok page ∧ IsLiteral page.root.text.toList ∧
      (∀ d ∈ Element.descendantsOf page.root.children, ∀ tag, d.tag = .named tag →
        IsRepeatable d tag) ∧
      ∃ again, page.html = .ok again ∧ parsePage again "" = .ok page := by
  intro text children page
  have hevents : events text = .ok
      [.data "1 ", .data "<", .data " 2 ", .start "p" [("class", "x")], .data "a & b",
        .start "br" [], .data "c", .start "p" [("id", "y")], .data "d", .start "script" [],
        .data "if (a<b) \"</x>\"", .stop "script"] := by
    decide +kernel
  have hpage : parsePage text "" = .ok page := by
    rw [parsePage, hevents]
    rfl
  have hfront : IsLiteral page.root.text.toList := by
    have hnumber : IsLiteral ([' ', '2', ' '] ++ []) :=
      .run (by decide) (by decide +kernel) (by simp) .nil
    have hblank : ∀ c ∈ [' ', '2', ' '].head?, beginsMarkup c = false := by
      rintro c ⟨⟩
      rfl
    have htext : "1 < 2 ".toList = ['1', ' '] ++ '<' :: [' ', '2', ' '] := rfl
    change IsLiteral "1 < 2 ".toList
    rw [htext]
    exact .run (by decide) (by decide +kernel) (by simp) (.mark hblank hnumber)
  have hbelow : ∀ d ∈ Element.descendantsOf page.root.children, ∀ tag, d.tag = .named tag →
      IsRepeatable d tag := by
    intro d hd tag htag
    simp only [page, children, Element.children_mk, Element.descendants, Element.descendantsOf,
      List.mem_cons, List.append_nil, List.cons_append, List.nil_append, List.not_mem_nil,
      or_false] at hd
    rcases hd with rfl | rfl | rfl | rfl
    · cases htag
      exact ⟨by decide, by decide, by decide, by simp [closedBy]⟩
    · cases htag
      exact ⟨by decide, by decide, by decide, by simp⟩
    · cases htag
      exact ⟨by decide, by decide, by decide, by simp [closedBy]⟩
    · cases htag
      exact ⟨by decide, by decide, by decide, by simp⟩
  exact ⟨hpage, hfront, hbelow, parsePage_html hpage hfront hbelow⟩

/-- Text in front of all elements that was written with references turns into markup. -/
theorem not_parsePage_html : ¬∀ (text again : String) (page read : Document),
    parsePage text "" = .ok page → page.html = .ok again → parsePage again "" = .ok read →
      read.root = page.root := by
  intro h
  have hescaped : events "&lt;b&gt;" = .ok [.data "<b>"] := by decide +kernel
  have hmarkup : events "<b>" = .ok [.start "b" []] := by decide +kernel
  have hpage : parsePage "&lt;b&gt;" "" = .ok ⟨.mk Document.rootTag [] "<b>" [], ""⟩ := by
    rw [parsePage, hescaped]
    rfl
  have hread : parsePage "<b>" "" =
      .ok ⟨.mk Document.rootTag [] "" [(.mk (.named "b") [] "" [], "")], ""⟩ := by
    rw [parsePage, hmarkup]
    rfl
  have htext := congrArg Element.text (h _ _ _ _ hpage rfl hread)
  exact absurd htext (by decide)

end Markup
end Microdata
