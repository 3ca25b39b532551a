import Microdata.Proofs.Markup.Traversal
set_option autoImplicit false

/-!
The elements of a page that has been read, whatever the text was. The events of a text follow one
another so that raw data stands only behind the start of its element (`follows_eventsFrom`), and
each step of the builder keeps what is closed and what is open as elements are read
(`Builder.step_idle`). Main statement: `isRead_of_events`.
-/

namespace Microdata
namespace Markup

theorem isAttributeName_oneAttribute {last c : Char} (h : beginsAttribute last c = true)
    (rest : List Char) : IsAttributeName (oneAttribute c rest).1.1 := by
  have hname : (oneAttribute c rest).1.1 =
      Text.lower (String.ofList (c :: rest.takeWhile isAttributeChar)) := rfl
  rw [hname]
  refine isAttributeName_lower ?_ (List.all_eq_true.mp List.all_takeWhile)
  rw [beginsAttribute, Bool.and_eq_true] at h
  rw [beginsAttribute, separates_space, Bool.true_and]
  exact h.2

theorem isAttributeName_of_attributes {last : Char} {cs left : List Char}
    {pairs : List (String × List Char)} (h : attributes last cs = (pairs, left)) :
    ∀ p ∈ pairs, IsAttributeName p.1 := by
  have hall : ∀ p ∈ (attributes last cs).1, IsAttributeName p.1 := by
    clear h
    fun_induction attributes last cs with
    | case1 => simp
    | case2 last c rest hbegins first others ih =>
      intro p hp
      rcases List.mem_cons.mp hp with rfl | hp
      · exact isAttributeName_oneAttribute hbegins rest
      · exact ih p hp
    | case3 => simp
  rwa [h] at hall

theorem AreRead.assign {as : List (String × String)} (h : AreRead as) {name : String}
    (hname : IsAttributeName name) (value : String) : AreRead (assign name value as) where
  names := by
    have hnames : ∀ n ∈ (Microdata.assign name value as).map (·.1), IsAttributeName n := by
      rw [names_assign]
      split
      · exact List.forall_mem_map.mpr h.names
      · simpa [or_imp, forall_and, hname] using fun n v hv => h.names (n, v) hv
    exact List.forall_mem_map.mp hnames
  distinct := by
    rw [names_assign]
    split
    · exact h.distinct
    · rename_i hnew
      simpa [List.nodup_append, h.distinct] using fun n v hv he => hnew (List.mem_map.mpr ⟨_, hv, he⟩)

theorem areRead_of_collect {pairs : List (String × List Char)} {as : List (String × String)}
    (hp : ∀ p ∈ pairs, IsAttributeName p.1) (h : collect pairs = .ok as) : AreRead as := by
  have hdone : AreRead [] := ⟨by simp, by simp⟩
  unfold collect at h
  generalize ([] : List (String × String)) = done at h hdone
  induction pairs generalizing done with
  | nil =>
    cases h
    exact hdone
  | cons p pairs ih =>
    rw [List.foldlM_cons] at h
    obtain ⟨next, hnext, h⟩ := bind_eq_ok.mp h
    obtain ⟨value, -, hvalue⟩ := bind_eq_ok.mp hnext
    cases hvalue
    exact ih (fun q hq => hp q (List.mem_cons_of_mem _ hq)) _ h
      (hdone.assign (hp p (List.mem_cons_self ..)) value)

def Event.IsNamed : Event → Prop
  | .start tag as | .empty tag as => IsTagName tag ∧ AreRead as
  | .stop _ | .data _ => True

/-- A construct says nothing or one thing. -/
def SaysOne (events : List Event) : Prop := events = [] ∨ ∃ e, events = [e] ∧ e.IsNamed

theorem saysOne_of_startTag {c : Char} {cs : List Char} (hc : c.isAlpha = true)
    {events : List Event} {more : Nat} (h : startTag (c :: cs) = .ok (.read events more)) :
    SaysOne events := by
  have hname : IsTagName (Text.lower (String.ofList ((c :: cs).takeWhile isTagChar))) := by
    rw [List.takeWhile_cons_of_pos (isTagChar_of_isAlpha hc)]
    exact isTagName_lower hc (List.all_eq_true.mp List.all_takeWhile)
  unfold startTag at h
  dsimp only at h
  generalize hread : attributes _ _ = read at h
  obtain ⟨pairs, left⟩ := read
  have hpairs := isAttributeName_of_attributes hread
  dsimp only at h
  split at h
  · cases h
  · obtain ⟨as, has, he⟩ := map_eq_ok.mp h
    cases he
    exact .inr ⟨_, rfl, hname, areRead_of_collect hpairs has⟩
  · obtain ⟨as, has, he⟩ := map_eq_ok.mp h
    cases he
    exact .inr ⟨_, rfl, hname, areRead_of_collect hpairs has⟩
  · split at h
    · cases h
    · obtain ⟨as, has, he⟩ := map_eq_ok.mp h
      cases he
      exact .inr ⟨_, rfl, trivial⟩

theorem saysOne_data (s : String) : SaysOne [.data s] := .inr ⟨_, rfl, trivial⟩

theorem saysOne_of_recovered {cs : List Char} {events : List Event} {more : Nat}
    (h : recovered cs = .ok (events, more)) : SaysOne events := by
  unfold recovered at h
  dsimp only at h
  split at h
  all_goals
    obtain ⟨s, -, he⟩ := map_eq_ok.mp h
    cases he
    exact saysOne_data s

theorem saysOne_of_endTag {cs : List Char} {events : List Event} {more : Nat}
    (h : endTag cs = .read events more) : SaysOne events := by
  unfold endTag at h
  split at h
  · cases h
  · cases h
    split
    · exact .inr ⟨_, rfl, trivial⟩
    · exact .inl rfl

theorem events_of_markedSection {cs : List Char} {events : List Event} {more : Nat}
    (h : markedSection cs = .ok (.read events more)) : events = [] := by
  unfold markedSection at h
  split at h
  · cases h
  · split at h
    · dsimp only at h
      split at h
      · cases h
      · split at h
        · cases h
        · split at h
          · cases h
          · cases h
            rfl
    · cases h

theorem events_of_declaration {cs : List Char} {events : List Event} {more : Nat}
    (h : declaration cs = .ok (.read events more)) : events = [] := by
  unfold declaration at h
  dsimp only at h
  split at h
  · split at h
    · cases h
    · cases h
      rfl
  · exact events_of_markedSection h
  · split at h
    all_goals
      have hskip := Except.ok.inj h
      split at hskip
      · cases hskip
      · cases hskip
        rfl

theorem saysOne_of_outcome {cs : List Char} {outcome : Outcome} {events : List Event} {more : Nat}
    (h : (match outcome with
      | .read events more => .ok (events, more)
      | .incomplete => recovered cs : Except Fault (List Event × Nat)) = .ok (events, more))
    (hread : ∀ events more, outcome = .read events more → SaysOne events) : SaysOne events := by
  cases outcome with
  | read =>
    cases h
    exact hread _ _ rfl
  | incomplete => exact saysOne_of_recovered h

theorem saysOne_of_construct {cs : List Char} {events : List Event} {more : Nat}
    (h : construct cs = .ok (events, more)) : SaysOne events := by
  unfold construct at h
  dsimp only at h
  split at h
  · exact saysOne_of_outcome h fun _ _ he => saysOne_of_endTag he
  · obtain ⟨outcome, houtcome, h⟩ := bind_eq_ok.mp h
    exact saysOne_of_outcome h fun _ _ he => .inl (events_of_declaration (he ▸ houtcome))
  · refine saysOne_of_outcome h fun _ _ he => ?_
    split at he
    · cases he
    · cases he
      exact .inl rfl
  · split at h
    · rename_i hletter
      obtain ⟨outcome, houtcome, h⟩ := bind_eq_ok.mp h
      exact saysOne_of_outcome h fun _ _ he => saysOne_of_startTag hletter (he ▸ houtcome)
    · cases h
      exact saysOne_data "<"
  · cases h
    exact saysOne_data "<"

/-- Events as they follow one another, in raw data or outside of it: raw data ends with its element,
or with the text. -/
inductive Follows : Option String → List Event → Prop
  | done : Follows none []
  | event {e : Event} {es : List Event} (he : e.IsNamed) (h : Follows (opensRaw? [e]) es) :
    Follows none (e :: es)
  | raw {tag text : String} {es : List Event} (htext : Unclosed tag.toList text.toList)
    (h : Follows none es) : Follows (some tag) (dataEvent text ++ .stop tag :: es)
  | rest {tag text : String} (htext : Unclosed tag.toList text.toList) :
    Follows (some tag) (dataEvent text)

theorem isVoid_of_isRaw {tag : String} (h : isRaw tag = true) : isVoid tag = false := by
  cases hv : isVoid tag with
  | true => simp [isRaw_of_isVoid hv] at h
  | false => rfl

theorem isRaw_of_opensRaw? {events : List Event} {tag : String} (h : opensRaw? events = some tag) :
    isRaw tag = true := by
  fun_induction opensRaw? events with
  | case1 => cases h
  | case2 tag as hraw =>
    cases h
    exact hraw
  | case3 => cases h
  | case4 _ _ _ ih => exact ih h

theorem Follows.data {es : List Event} (h : Follows none es) (s : String) :
    Follows none (dataEvent s ++ es) := by
  unfold dataEvent
  split
  · exact h
  · exact .event trivial h

theorem follows_nil (raw : Option String) : Follows raw [] := by
  cases raw with
  | none => exact .done
  | some tag => exact @Follows.rest tag "" (unclosed_nil _)

theorem follows_eventsFrom {raw : Option String} {cs : List Char} {es : List Event}
    (hraw : ∀ tag ∈ raw, isRaw tag = true) (h : eventsFrom raw cs = .ok es) : Follows raw es := by
  have hunclosed {tag : String} {cs text : List Char} {close : Option Nat} (ht : isRaw tag = true)
      (hdata : rawData? tag.toList cs = some (text, close)) :
      Unclosed tag.toList (String.ofList text).toList := by
    rw [String.toList_ofList]
    exact (unclosed_of_rawData? (isLower_of_isRaw ht).1 (isLower_of_isRaw ht).2 hdata).2
  fun_induction eventsFrom raw cs generalizing es with
  | case1 raw =>
    cases h
    exact follows_nil raw
  | case2 c rest tag =>
    cases h
    exact follows_nil (some tag)
  | case3 c rest tag text hdata =>
    cases h
    exact .rest (hunclosed (hraw tag rfl) hdata)
  | case4 c rest tag text n hdata ih =>
    obtain ⟨others, hothers, h⟩ := bind_eq_ok.mp h
    cases h
    exact .raw (hunclosed (hraw tag rfl) hdata) (ih (by simp) hothers)
  | case5 => cases h
  | case6 c rest _ events more hconstruct ih =>
    obtain ⟨others, hothers, h⟩ := bind_eq_ok.mp h
    cases h
    have hfollows := ih (fun tag htag => isRaw_of_opensRaw? htag) hothers
    rcases saysOne_of_construct hconstruct with rfl | ⟨e, rfl, he⟩
    · exact hfollows
    · exact .event he hfollows
  | case7 => cases h
  | case8 c rest _ text s _ =>
    rename_i ih
    obtain ⟨others, hothers, h⟩ := bind_eq_ok.mp h
    cases h
    exact (ih (by simp) hothers).data s

def Throughout (P : Element → Prop) (cs : List Child) : Prop :=
  ∀ d ∈ Element.descendantsOf cs, P d

theorem descendantsOf_append (cs ds : List Child) :
    Element.descendantsOf (cs ++ ds) = Element.descendantsOf cs ++ Element.descendantsOf ds := by
  induction cs with
  | nil => rfl
  | cons c cs ih => rw [List.cons_append, Element.descendantsOf, ih, Element.descendantsOf,
      List.append_assoc]

theorem descendantsOf_appendToLast (text : String) (cs : List Child) :
    Element.descendantsOf (Element.appendToLast text cs) = Element.descendantsOf cs := by
  fun_induction Element.appendToLast text cs with
  | case1 => rfl
  | case2 e tail => rfl
  | case3 c rest _ ih => rw [Element.descendantsOf, ih, Element.descendantsOf]

section Throughout

variable {P : Element → Prop}

theorem throughout_nil : Throughout P [] := by simp [Throughout, Element.descendantsOf]

theorem Throughout.append {cs ds : List Child} (hcs : Throughout P cs) (hds : Throughout P ds) :
    Throughout P (cs ++ ds) := by
  intro d hd
  rw [descendantsOf_append, List.mem_append] at hd
  exact hd.elim (hcs d) (hds d)

theorem throughout_single {e : Element} (h : P e) (hbelow : Throughout P e.children)
    (tail : String) : Throughout P [(e, tail)] := by
  intro d hd
  obtain ⟨t, as, text, children⟩ := e
  rw [Element.descendantsOf, Element.descendantsOf, List.append_nil, Element.descendants] at hd
  rcases List.mem_cons.mp hd with rfl | hd
  · exact h
  · exact hbelow d hd

/-- A change of what an element holds, by elements of a property. -/
structure Fills (P : Element → Prop) (f : Element → Element) : Prop where
  tag : ∀ e, (f e).tag = e.tag
  attributes : ∀ e, (f e).attributes = e.attributes
  below : ∀ e, Throughout P e.children → Throughout P (f e).children

theorem fills_append {c : Child} (h : Throughout P [c]) : Fills P (·.append c) :=
  ⟨fun _ => rfl, fun _ => rfl, fun _ he => he.append h⟩

theorem fills_appendText (text : String) : Fills P (·.appendText text) := by
  refine ⟨fun e => e.tag_appendText text, fun e => e.attributes_appendText text, fun e he => ?_⟩
  unfold Element.appendText
  split
  · exact throughout_nil
  · intro d hd
    rw [Element.children_mk, descendantsOf_appendToLast] at hd
    exact he d hd

end Throughout

def AllRead (cs : List Child) : Prop := ∀ d ∈ Element.descendantsOf cs, ∃ tag, IsRead d tag

theorem allRead_nil : AllRead [] := throughout_nil

theorem allRead_single {e : Element} {tag : String} (h : IsRead e tag) (hbelow : AllRead e.children)
    (tail : String) : AllRead [(e, tail)] :=
  throughout_single ⟨tag, h⟩ hbelow tail

structure OpenElement.IsSound (o : OpenElement) : Prop where
  read : IsRead o.element o.tag
  below : AllRead o.element.children
  full : isVoid o.tag = false

theorem OpenElement.IsSound.fill {o : OpenElement} (h : o.IsSound) (hraw : isRaw o.tag = false)
    {f : Element → Element} (hf : Fills (fun d => ∃ tag, IsRead d tag) f) :
    OpenElement.IsSound { o with element := f o.element } where
  read :=
    { tag_eq := (hf.tag _).trans h.read.tag_eq
      name := h.read.name
      attributes := (hf.attributes _).symm ▸ h.read.attributes
      hollow := fun hv => by simp [h.full] at hv
      raw := fun hr => by simp [hraw] at hr }
  below := hf.below _ h.below
  full := h.full

namespace Builder

/-- A page under construction in which everything is as it is read. Only the innermost open element
may be one of raw data. -/
structure IsSound (b : Builder) : Prop where
  opened : ∀ o ∈ b.inner, o.IsSound
  around : ∀ o ∈ b.inner.tail, isRaw o.tag = false
  below : AllRead b.root.children
  root : b.root.tag = Document.rootTag ∧ b.root.attributes = []

structure IsIdle (b : Builder) : Prop extends IsSound b where
  idle : ∀ o ∈ b.inner, isRaw o.tag = false

variable {b : Builder}

theorem IsIdle.update (h : b.IsIdle) {f : Element → Element}
    (hf : Fills (fun d => ∃ tag, IsRead d tag) f) : (b.update f).IsIdle := by
  obtain ⟨inner, root⟩ := b
  cases inner with
  | nil =>
    exact ⟨⟨by simp [Builder.update], by simp [Builder.update], hf.below _ h.below,
      (hf.tag _).trans h.root.1, (hf.attributes _).trans h.root.2⟩, by simp [Builder.update]⟩
  | cons o inner =>
    have hfilled := (h.opened o (List.mem_cons_self ..)).fill (h.idle o (List.mem_cons_self ..)) hf
    refine ⟨⟨fun p hp => ?_, h.around, h.below, h.root⟩, fun p hp => ?_⟩
    · rcases List.mem_cons.mp hp with rfl | hp
      · exact hfilled
      · exact h.opened p (List.mem_cons_of_mem _ hp)
    · rcases List.mem_cons.mp hp with rfl | hp
      · exact h.idle o (List.mem_cons_self ..)
      · exact h.idle p (List.mem_cons_of_mem _ hp)

theorem IsSound.closeTop (h : b.IsSound) : b.closeTop.IsIdle := by
  obtain ⟨inner, root⟩ := b
  cases inner with
  | nil => exact ⟨h, by simp [Builder.closeTop]⟩
  | cons o inner =>
    have ho := h.opened o (List.mem_cons_self ..)
    have hinner : IsIdle ⟨inner, root⟩ :=
      ⟨⟨fun p hp => h.opened p (List.mem_cons_of_mem _ hp),
        fun p hp => h.around p (List.mem_of_mem_tail hp), h.below, h.root⟩, h.around⟩
    exact hinner.update (fills_append (allRead_single ho.read ho.below ""))

theorem closeMany_keeps {Q : Builder → Prop} (hQ : ∀ b : Builder, Q b → Q b.closeTop) (n : Nat)
    (h : Q b) : Q (closeMany n b) := by
  induction n generalizing b with
  | zero => exact h
  | succ n ih => exact ih (hQ b h)

theorem closeImplied_keeps {Q : Builder → Prop} (hQ : ∀ b : Builder, Q b → Q b.closeTop)
    (tag : String) (h : Q b) : Q (b.closeImplied tag) := by
  unfold closeImplied
  split
  · exact h
  · split
    · exact hQ b h
    · exact h

theorem IsIdle.closeMany (h : b.IsIdle) (n : Nat) : (Builder.closeMany n b).IsIdle :=
  closeMany_keeps (fun _ h => h.closeTop) n h

theorem IsSound.closeMany (h : b.IsSound) (n : Nat) : (Builder.closeMany n b).IsSound :=
  closeMany_keeps (fun _ h => h.closeTop.toIsSound) n h

theorem IsIdle.closeImplied (h : b.IsIdle) (tag : String) : (b.closeImplied tag).IsIdle :=
  closeImplied_keeps (fun _ h => h.closeTop) tag h

theorem isRead_new {tag : String} {as : List (String × String)} (h : IsTagName tag)
    (has : AreRead as) : IsRead (.mk (.named tag) as "" []) tag :=
  ⟨rfl, h, has, fun _ => ⟨rfl, rfl⟩, fun _ => ⟨rfl, unclosed_nil _⟩⟩

theorem fills_new {tag : String} {as : List (String × String)} (h : IsTagName tag)
    (has : AreRead as) :
    Fills (fun d => ∃ tag, IsRead d tag) (·.append (.mk (.named tag) as "" [], "")) :=
  fills_append (allRead_single (isRead_new h has) allRead_nil "")

theorem isRead_raw {tag text : String} {as : List (String × String)} (h : IsTagName tag)
    (has : AreRead as) (hraw : isRaw tag = true) (htext : Unclosed tag.toList text.toList) :
    IsRead (.mk (.named tag) as text []) tag :=
  ⟨rfl, h, has, fun hv => by simp [isRaw_of_isVoid hv] at hraw, fun _ => ⟨rfl, htext⟩⟩

theorem IsIdle.push (h : b.IsIdle) {o : OpenElement} (ho : o.IsSound) :
    IsSound ⟨o :: b.inner, b.root⟩ where
  opened := fun p hp => (List.mem_cons.mp hp).elim (fun he => he ▸ ho) (h.opened p)
  around := h.idle
  below := h.below
  root := h.root

/-- What the next events find: nothing of raw data open, or an element of it without any yet. -/
def Awaits (b : Builder) : Option String → Prop
  | none => b.IsIdle
  | some tag => ∃ (as : List (String × String)) (outer : Builder),
    b = ⟨⟨tag, .mk (.named tag) as "" []⟩ :: outer.inner, outer.root⟩ ∧
    outer.IsIdle ∧ IsTagName tag ∧ AreRead as ∧ isRaw tag = true

theorem step_idle (h : b.IsIdle) {e : Event} (he : e.IsNamed) :
    (b.step e).Awaits (opensRaw? [e]) := by
  cases e with
  | start tag as =>
    have hclosed := h.closeImplied tag
    obtain ⟨hname, has⟩ := he
    cases hv : isVoid tag with
    | true =>
      simp only [Builder.step, hv, if_true, opensRaw?, isRaw_of_isVoid hv, Bool.false_eq_true,
        if_false]
      exact hclosed.update (fills_new hname has)
    | false =>
      simp only [Builder.step, hv, Bool.false_eq_true, if_false, opensRaw?]
      cases hraw : isRaw tag with
      | true => exact ⟨as, b.closeImplied tag, rfl, hclosed, hname, has, hraw⟩
      | false =>
        have hpush := hclosed.push (o := ⟨tag, .mk (.named tag) as "" []⟩)
          ⟨isRead_new hname has, allRead_nil, hv⟩
        refine ⟨hpush, fun p hp => ?_⟩
        rcases List.mem_cons.mp hp with rfl | hp
        · exact hraw
        · exact hclosed.idle p hp
  | empty tag as => exact h.update (fills_new he.1 he.2)
  | stop tag =>
    simp only [Builder.step]
    split
    · exact h
    · split
      · exact h
      · exact h.closeMany _
  | data text => exact h.update (fills_appendText text)

theorem foldl_rawData {outer : Builder} {tag : String} {as : List (String × String)}
    (text : String) : (dataEvent text).foldl step
      ⟨⟨tag, .mk (.named tag) as "" []⟩ :: outer.inner, outer.root⟩ =
      ⟨⟨tag, .mk (.named tag) as text []⟩ :: outer.inner, outer.root⟩ := by
  rw [foldl_dataEvent, update_cons]
  simp [Element.appendText]

theorem foldl_sound {raw : Option String} {es : List Event} (h : Follows raw es)
    (hb : b.Awaits raw) : (es.foldl step b).IsSound := by
  induction h generalizing b with
  | done => exact hb.toIsSound
  | event he _ ih => exact ih (step_idle hb he)
  | @raw tag text es htext _ ih =>
    obtain ⟨as, outer, rfl, houter, hname, has, hraw⟩ := hb
    have hread := isRead_raw hname has hraw htext
    rw [List.foldl_append, foldl_rawData, List.foldl_cons, step_stop (isVoid_of_isRaw hraw)]
    exact ih (houter.update (fills_append (allRead_single hread allRead_nil "")))
  | @rest tag text htext =>
    obtain ⟨as, outer, rfl, houter, hname, has, hraw⟩ := hb
    rw [foldl_rawData]
    exact houter.push ⟨isRead_raw hname has hraw htext, allRead_nil, isVoid_of_isRaw hraw⟩

end Builder

/-- The elements of a page are as elements are read, whatever its text was. -/
theorem isRead_of_events {text : String} {es : List Event} (h : events text = .ok es) :
    ∃ front children, build es = .mk Document.rootTag [] front children ∧ AllRead children := by
  have hfollows := follows_eventsFrom (by simp) h
  have hempty : Builder.empty.Awaits none :=
    ⟨⟨by simp [Builder.empty], by simp [Builder.empty], allRead_nil, rfl, rfl⟩,
      by simp [Builder.empty]⟩
  have hsound := (Builder.foldl_sound hfollows hempty).closeMany
    (es.foldl Builder.step .empty).inner.length
  obtain ⟨htag, hattributes⟩ : (build es).tag = _ ∧ (build es).attributes = _ := hsound.root
  have hbelow : AllRead (build es).children := hsound.below
  generalize build es = root at htag hattributes hbelow
  obtain ⟨tag, as, front, children⟩ := root
  obtain rfl : tag = _ := htag
  obtain rfl : as = _ := hattributes
  exact ⟨front, children, rfl, hbelow⟩

end Markup
end Microdata
