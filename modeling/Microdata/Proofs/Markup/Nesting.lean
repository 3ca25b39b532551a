import Mathlib.Data.List.Chain
import Microdata.Proofs.Markup.Building
set_option autoImplicit false

/-!
What stands directly in what. An element stands in whatever is innermost when it starts, so that
each event adds at most one pair of a parent and a child (`Builder.hasPair_step`), and nothing that
closes later changes it. Main statement: `build_nests`. If a child closes its parent, both are rows:
a row closes the cell that is open, but not the row which that cell stands in.
-/

namespace Microdata

namespace Element

def HasPair (e : Element) (p : Tag × Tag) : Prop :=
  ∃ d ∈ e.descendants, ∃ c ∈ d.children, p = (d.tag, c.1.tag)

variable {p : Tag × Tag}

theorem hasPair_mk {tag : Tag} {as : List (String × String)} {text : String} {cs : List Child} :
    (mk tag as text cs).HasPair p ↔ (∃ c ∈ cs, p = (tag, c.1.tag)) ∨
      ∃ d ∈ descendantsOf cs, ∃ c ∈ d.children, p = (d.tag, c.1.tag) := by
  simp [HasPair, descendants]

theorem hasPair_leaf (tag : Tag) (as : List (String × String)) (text : String) :
    ¬(mk tag as text []).HasPair p := by
  simp [hasPair_mk, descendantsOf]

theorem hasPair_append (e d : Element) (tail : String) :
    (e.append (d, tail)).HasPair p ↔ e.HasPair p ∨ p = (e.tag, d.tag) ∨ d.HasPair p := by
  obtain ⟨tag, as, text, cs⟩ := e
  have hchildren : (∃ c ∈ cs ++ [(d, tail)], p = (tag, c.1.tag)) ↔
      (∃ c ∈ cs, p = (tag, c.1.tag)) ∨ p = (tag, d.tag) := by
    simp [or_and_right, exists_or]
  have hbelow : (∃ f ∈ descendantsOf (cs ++ [(d, tail)]), ∃ c ∈ f.children, p = (f.tag, c.1.tag)) ↔
      (∃ f ∈ descendantsOf cs, ∃ c ∈ f.children, p = (f.tag, c.1.tag)) ∨ d.HasPair p := by
    simp [Markup.descendantsOf_append, descendantsOf, HasPair, or_and_right, exists_or]
  change (mk tag as text (cs ++ [(d, tail)])).HasPair p ↔ _
  rw [hasPair_mk, hasPair_mk, hchildren, hbelow, or_or_or_comm, tag_mk]

theorem map_appendToLast (text : String) (cs : List Child) :
    (appendToLast text cs).map (·.1) = cs.map (·.1) := by
  fun_induction appendToLast text cs with
  | case1 => rfl
  | case2 e tail => rfl
  | case3 c rest _ ih => rw [List.map_cons, ih, List.map_cons]

theorem hasPair_appendText (e : Element) (text : String) :
    (e.appendText text).HasPair p ↔ e.HasPair p := by
  obtain ⟨tag, as, front, cs⟩ := e
  cases cs with
  | nil => exact iff_of_false (hasPair_leaf tag as _) (hasPair_leaf tag as front)
  | cons c cs =>
    have hmem (ds : List Child) :
        (∃ d ∈ ds, p = (tag, d.1.tag)) ↔ ∃ d ∈ ds.map (·.1), p = (tag, d.tag) := by simp
    simp only [appendText, children_mk, tag_mk, attributes_mk, text_mk, hasPair_mk,
      Markup.descendantsOf_appendToLast, hmem, map_appendToLast]

end Element

namespace Markup
namespace Builder

def top (root : Element) : List OpenElement → Tag
  | [] => root.tag
  | o :: _ => o.element.tag

def HasPairAround (root : Element) (p : Tag × Tag) : List OpenElement → Prop
  | [] => root.HasPair p
  | o :: rest => HasPairAround root p rest ∨ p = (top root rest, o.element.tag) ∨ o.element.HasPair p

def HasPair (b : Builder) (p : Tag × Tag) : Prop := HasPairAround b.root p b.inner

def pair? (b : Builder) : Event → Option (Tag × Tag)
  | .start tag _ =>
    let b := b.closeImplied tag
    some (top b.root b.inner, .named tag)
  | .empty tag _ => some (top b.root b.inner, .named tag)
  | .stop _ | .data _ => none

variable {p : Tag × Tag}

theorem hasPair_append (b : Builder) (d : Element) :
    (b.update (·.append (d, ""))).HasPair p ↔
      b.HasPair p ∨ p = (top b.root b.inner, d.tag) ∨ d.HasPair p := by
  obtain ⟨inner, root⟩ := b
  cases inner with
  | nil => exact Element.hasPair_append root d ""
  | cons o inner =>
    simp only [update, HasPair, HasPairAround, top, Element.hasPair_append, or_assoc]
    rfl

theorem hasPair_started (b : Builder) (tag : String) (as : List (String × String)) :
    (b.update (·.append (.mk (.named tag) as "" [], ""))).HasPair p ↔
      b.HasPair p ∨ p = (top b.root b.inner, .named tag) := by
  rw [hasPair_append, or_iff_left (Element.hasPair_leaf (.named tag) as ""), Element.tag_mk]

theorem hasPair_closeTop (b : Builder) : b.closeTop.HasPair p ↔ b.HasPair p := by
  obtain ⟨inner, root⟩ := b
  cases inner with
  | nil => rfl
  | cons o inner => exact hasPair_append ⟨inner, root⟩ o.element

theorem hasPair_closeMany (n : Nat) (b : Builder) : (closeMany n b).HasPair p ↔ b.HasPair p :=
  closeMany_keeps (Q := fun c => c.HasPair p ↔ b.HasPair p)
    (fun c hc => (hasPair_closeTop c).trans hc) n Iff.rfl

theorem hasPair_closeImplied (b : Builder) (tag : String) :
    (b.closeImplied tag).HasPair p ↔ b.HasPair p :=
  closeImplied_keeps (Q := fun c => c.HasPair p ↔ b.HasPair p)
    (fun c hc => (hasPair_closeTop c).trans hc) tag Iff.rfl

/-- What an event starts stands in what is innermost then, and nothing else changes its place. -/
theorem hasPair_step (b : Builder) (e : Event) :
    (b.step e).HasPair p ↔ b.HasPair p ∨ b.pair? e = some p := by
  cases e with
  | start tag as =>
    have hkept := hasPair_closeImplied (p := p) b tag
    simp only [step, pair?, Option.some.injEq, eq_comm (b := p)]
    generalize b.closeImplied tag = closed at hkept ⊢
    split
    · rw [hasPair_started, hkept]
    · change closed.HasPair p ∨ p = _ ∨ (Element.mk ..).HasPair p ↔ _
      rw [or_iff_left (Element.hasPair_leaf (.named tag) as ""), hkept, Element.tag_mk]
  | empty tag as =>
    simp only [pair?, Option.some.injEq, eq_comm (b := p)]
    exact hasPair_started b tag as
  | stop tag =>
    simp only [step, pair?, reduceCtorEq, or_false]
    split
    · rfl
    · split
      · rfl
      · exact hasPair_closeMany _ b
  | data text =>
    simp only [step, pair?, reduceCtorEq, or_false]
    obtain ⟨inner, root⟩ := b
    cases inner with
    | nil => exact Element.hasPair_appendText root text
    | cons o inner =>
      simp only [update, HasPair, HasPairAround, Element.tag_appendText, Element.hasPair_appendText]

theorem hasPair_foldl (es : List Event) (b : Builder) :
    (es.foldl step b).HasPair p ↔ b.HasPair p ∨
      ∃ before e after, es = before ++ e :: after ∧ (before.foldl step b).pair? e = some p := by
  induction es generalizing b with
  | nil => simp
  | cons e es ih =>
    rw [List.foldl_cons, ih, hasPair_step, or_assoc]
    refine or_congr_right ⟨?_, ?_⟩
    · rintro (hpair | ⟨before, f, after, rfl, hpair⟩)
      · exact ⟨[], e, es, rfl, hpair⟩
      · exact ⟨e :: before, f, after, rfl, hpair⟩
    · rintro ⟨before, f, after, hes, hpair⟩
      cases before with
      | nil =>
        obtain ⟨rfl, rfl⟩ := List.cons.inj hes
        exact .inl hpair
      | cons g before =>
        obtain ⟨rfl, rfl⟩ := List.cons.inj hes
        exact .inr ⟨before, f, after, rfl, hpair⟩

theorem hasPair_finish (b : Builder) : b.finish.HasPair p ↔ b.HasPair p := by
  have hclosed := hasPair_closeMany (p := p) b.tags.length b
  rwa [closeMany_all] at hclosed

theorem hasPair_build {events : List Event} : (build events).HasPair p ↔
    ∃ before e after, events = before ++ e :: after ∧
      (before.foldl step .empty).pair? e = some p := by
  have hempty : ¬Builder.empty.HasPair p := Element.hasPair_leaf Document.rootTag [] ""
  rw [build, hasPair_finish, hasPair_foldl, or_iff_right hempty]

def InCellOfRow (tags : List String) : Prop :=
  ∃ cell ∈ ["td", "th"], ∃ outer, tags = cell :: "tr" :: outer

/-- That an element can stand in another, rows in rows aside. -/
def Nests (rows : Prop) (inner outer : String) : Prop :=
  outer ∈ closedBy inner → inner = "tr" ∧ outer = "tr" ∧ rows

def closers : List String := ["li", "p", "option", "dt", "dd", "tr", "td", "th"]

theorem mem_closers {tag outer : String} (h : outer ∈ closedBy tag) : tag ∈ closers := by
  unfold closedBy at h
  split at h
  case h_9 => cases h
  all_goals decide

/-- What closes two elements: the one closes the other as well, or they are a cell and its row. -/
theorem closedBy_closedBy {tag top outer : String} (htop : top ∈ closedBy tag)
    (houter : outer ∈ closedBy tag) :
    outer ∈ closedBy top ∧ (top = "tr" → tag = "tr") ∨
      tag = "tr" ∧ outer = "tr" ∧ top ∈ ["td", "th"] := by
  have hall : ∀ tag ∈ closers, ∀ top ∈ closedBy tag, ∀ outer ∈ closedBy tag,
      outer ∈ closedBy top ∧ (top = "tr" → tag = "tr") ∨
        tag = "tr" ∧ outer = "tr" ∧ top ∈ ["td", "th"] := by decide
  exact hall tag (mem_closers htop) top htop outer houter

theorem rootName_not_mem_closedBy (tag : String) : Stacks.rootName ∉ closedBy tag := by
  intro h
  have hall : ∀ tag ∈ closers, Stacks.rootName ∉ closedBy tag := by decide
  exact hall tag (mem_closers h) h

variable {b : Builder} {rows : Prop}

theorem IsOrderly.top_eq (h : b.IsOrderly) :
    top b.root b.inner = .named (b.tags.head?.getD Stacks.rootName) := by
  obtain ⟨inner, root⟩ := b
  cases inner with
  | nil => exact h.root
  | cons o inner => exact h.outer.1.tag_eq

theorem cases_closeImplied (b : Builder) (tag : String) :
    (∃ top rest, b.tags = top :: rest ∧ top ∈ closedBy tag ∧ (b.closeImplied tag).tags = rest) ∨
      (∀ top ∈ b.tags.head?, top ∉ closedBy tag) ∧ (b.closeImplied tag).tags = b.tags := by
  obtain ⟨inner, root⟩ := b
  cases inner with
  | nil => exact .inr ⟨nofun, rfl⟩
  | cons o inner =>
    unfold closeImplied
    dsimp only
    split
    · rename_i ho
      exact .inl ⟨o.tag, inner.map (·.tag), rfl, List.contains_iff_mem.mp ho, tags_closeTop _⟩
    · rename_i ho
      refine .inr ⟨fun top htop => ?_, rfl⟩
      obtain rfl : o.tag = top := Option.some.inj htop
      exact fun hmem => ho (List.contains_iff_mem.mpr hmem)

theorem isChain_start (h : b.tags.IsChain (Nests rows)) {tag : String}
    (hrows : tag = "tr" → InCellOfRow b.tags → rows) :
    (tag :: (b.closeImplied tag).tags).IsChain (Nests rows) := by
  rcases cases_closeImplied b tag with ⟨top, rest, htags, htop, hleft⟩ | ⟨hstays, hleft⟩
  · rw [htags] at h hrows
    rw [hleft]
    cases rest with
    | nil => exact .singleton tag
    | cons outer rest =>
      obtain ⟨hnests, hrest⟩ := List.isChain_cons_cons.mp h
      refine .cons_cons (fun houter => ?_) hrest
      rcases closedBy_closedBy htop houter with ⟨hcloses, htr⟩ | ⟨rfl, rfl, hcell⟩
      · obtain ⟨hinner, houter, hr⟩ := hnests hcloses
        exact ⟨htr hinner, houter, hr⟩
      · exact ⟨rfl, rfl, hrows rfl ⟨top, hcell, rest, rfl⟩⟩
  · rw [hleft]
    refine List.isChain_cons.mpr ⟨fun outer houter hcloses => ?_, h⟩
    exact absurd hcloses (hstays outer houter)

theorem isChain_step (h : b.tags.IsChain (Nests rows)) {e : Event}
    (hrows : ∀ as, e = .start "tr" as → InCellOfRow b.tags → rows) :
    (b.step e).tags.IsChain (Nests rows) := by
  cases e with
  | start tag as =>
    have hstarted := isChain_start h fun htag hcell => hrows as (htag ▸ rfl) hcell
    simp only [step]
    split
    · rw [tags_update]
      exact hstarted.tail
    · exact hstarted
  | empty tag as =>
    simp only [step, tags_update]
    exact h
  | stop tag =>
    simp only [step]
    split
    · exact h
    · split
      · exact h
      · rw [tags_closeMany]
        exact h.drop _
  | data text =>
    simp only [step, tags_update]
    exact h

theorem isChain_foldl (es : List Event) (h : b.tags.IsChain (Nests rows))
    (hrows : ∀ before as after, es = before ++ .start "tr" as :: after →
      InCellOfRow (before.foldl step b).tags → rows) :
    (es.foldl step b).tags.IsChain (Nests rows) := by
  induction es generalizing b with
  | nil => exact h
  | cons e es ih =>
    refine ih (isChain_step h fun as he => ?_) fun before as after hes => ?_
    · exact hrows [] as es (he ▸ rfl)
    · exact hrows (e :: before) as after (hes ▸ rfl)

theorem pair?_of_inCellOfRow (h : b.IsOrderly) (hcell : InCellOfRow b.tags)
    (as : List (String × String)) :
    b.pair? (.start "tr" as) = some (.named "tr", .named "tr") := by
  obtain ⟨cell, hmem, outer, htags⟩ := hcell
  have hall : ∀ cell ∈ ["td", "th"], cell ∈ closedBy "tr" := by decide
  have hleft : (b.closeImplied "tr").tags = "tr" :: outer := by
    rcases cases_closeImplied b "tr" with ⟨top, rest, htop, -, hleft⟩ | ⟨hstays, -⟩
    · rw [hleft]
      exact (List.cons.inj (htop.symm.trans htags)).2
    · rw [htags] at hstays
      exact absurd (hall cell hmem) (hstays cell rfl)
  simp only [pair?, (h.closeImplied "tr").top_eq, hleft, List.head?_cons, Option.getD_some]

end Builder

def Clashes (p : Tag × Tag) : Prop :=
  ∃ outer inner, p = (.named outer, .named inner) ∧ outer ∈ closedBy inner

namespace Builder

variable {b : Builder} {rows : Prop} {p : Tag × Tag}

theorem rows_of_clashes (h : b.IsOrderly) (hchain : b.tags.IsChain (Nests rows)) {tag : String}
    {as : List (String × String)} (hrows : tag = "tr" → InCellOfRow b.tags → rows)
    (hp : b.pair? (.start tag as) = some p) (hclash : Clashes p) :
    p = (.named "tr", .named "tr") ∧ rows := by
  have hstarted := isChain_start hchain hrows
  simp only [pair?, (h.closeImplied tag).top_eq] at hp
  obtain ⟨outer, inner, rfl, hcloses⟩ := hclash
  obtain ⟨houter, hinner⟩ := Prod.mk.inj (Option.some.inj hp)
  obtain rfl := Tag.named.inj hinner
  generalize (b.closeImplied tag).tags = left at hstarted houter
  cases left with
  | nil =>
    obtain rfl := Tag.named.inj houter
    exact absurd hcloses (rootName_not_mem_closedBy tag)
  | cons top left =>
    obtain rfl : top = outer := Tag.named.inj houter
    obtain ⟨rfl, rfl, hr⟩ := (List.isChain_cons_cons.mp hstarted).1 hcloses
    exact ⟨rfl, hr⟩

end Builder

def RowStartsInCell (events : List Event) : Prop :=
  ∃ before as after, events = before ++ .start "tr" as :: after ∧
    Builder.InCellOfRow (before.foldl Builder.step .empty).tags

/-- Where no tag closes its own element: of two elements of which the inner one closes the outer
one, both are rows, and there are two such rows exactly if a row starts in a cell of a row. -/
theorem build_nests {events : List Event} (h : ∀ tag as, .empty tag as ∉ events) :
    (∀ p, (build events).HasPair p → Clashes p → p = (.named "tr", .named "tr")) ∧
      ((∃ p, (build events).HasPair p ∧ Clashes p) ↔ RowStartsInCell events) := by
  have horderly (es : List Event) := Builder.isOrderly_empty.foldl es
  have hclash {p : Tag × Tag} (hp : (build events).HasPair p) (hc : Clashes p) :
      p = (.named "tr", .named "tr") ∧ RowStartsInCell events := by
    obtain ⟨before, e, after, rfl, hpair⟩ := Builder.hasPair_build.mp hp
    have hchain : (before.foldl Builder.step .empty).tags.IsChain
        (Builder.Nests (RowStartsInCell (before ++ e :: after))) :=
      Builder.isChain_foldl before .nil fun front as rest hbefore hcell =>
        ⟨front, as, rest ++ e :: after, by simp [hbefore], hcell⟩
    cases e with
    | start tag as =>
      exact Builder.rows_of_clashes (horderly before) hchain
        (fun htag hcell => ⟨before, as, after, by rw [htag], hcell⟩) hpair hc
    | empty tag as => exact absurd (by simp) (h tag as)
    | stop tag => cases hpair
    | data text => cases hpair
  refine ⟨fun p hp hc => (hclash hp hc).1, fun ⟨p, hp, hc⟩ => (hclash hp hc).2, ?_⟩
  rintro ⟨before, as, after, hevents, hcell⟩
  have hpair := Builder.pair?_of_inCellOfRow (horderly before) hcell as
  exact ⟨_, Builder.hasPair_build.mpr ⟨before, _, after, hevents, hpair⟩, "tr", "tr", rfl, by decide⟩

def glossaryEvents : List Event :=
  [.start "dl" [], .start "dt" [], .data "a", .start "dd" [], .start "p" [], .start "p" [],
    .start "b" [], .start "dt" [], .stop "p", .start "dd" [], .stop "li", .start "dd" []]

theorem build_nests_glossary :
    (∀ tag as, .empty tag as ∉ glossaryEvents) ∧
      ¬∃ p, (build glossaryEvents).HasPair p ∧ Clashes p := by
  have hempty : ∀ tag as, .empty tag as ∉ glossaryEvents := by simp [glossaryEvents]
  refine ⟨hempty, fun hclash => ?_⟩
  obtain ⟨before, as, after, hevents, -⟩ := (build_nests hempty).2.mp hclash
  have hrow : .start "tr" as ∈ glossaryEvents := by simp [hevents]
  simp [glossaryEvents] at hrow

/-- A row behind a cell without an end tag stands in the row of the cell. -/
theorem not_nests_rows : ¬∀ events : List Event, (∀ tag as, .empty tag as ∉ events) →
    ∀ p, (build events).HasPair p → ¬Clashes p := by
  intro h
  have hpair : (build [.start "tr" [], .start "td" [], .start "tr" []]).HasPair
      (.named "tr", .named "tr") :=
    Builder.hasPair_build.mpr ⟨[.start "tr" [], .start "td" []], .start "tr" [], [], rfl, rfl⟩
  exact h _ (by simp) _ hpair ⟨"tr", "tr", rfl, by decide⟩

end Markup
end Microdata
