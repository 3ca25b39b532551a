import Microdata.Binding.Render
import Microdata.Extraction
import Mathlib.Tactic.Simps.Basic
set_option autoImplicit false

/-!
The template that mirrors a record: one element for each property, in order. Main statement: a
record that is rendered on its mirror can be read back from the result (`extract_render`). The
rendered tree is described by `filled`, which both halves of the proof meet in: `renderAt_element`
says that rendering gives it, and `contributions_filled` what can be read from it.
-/

namespace Microdata.Mirror

structure IsName (name : String) : Prop where
  nonempty : name ≠ ""
  unspaced : ∀ c ∈ name.toList, Text.isBlank c = false
  unfilled : ¬ ['$', '\x7b'] <:+: name.toList
  unreserved : name.toList.head? ≠ some '@'
  unmarked : 2 < name.length → ¬ "[]".toList <:+ name.toList

structure IsTrimmed (s : String) : Prop where
  eq : Text.strip s = s

def named (entries : List (String × Value)) : Fields :=
  entries.map fun (n, v) => (.text n, v)

/-- Trimmed texts, lists of at least two of them, and records of such values. -/
inductive Plain : Value → Prop where
  | text {s : String} : IsTrimmed s → Plain (.text s)
  | list {texts : List String} : 2 ≤ texts.length → (∀ s ∈ texts, IsTrimmed s) →
      Plain (.list (texts.map .text))
  | record {entries : List (String × Value)} : (entries.map (·.1)).Nodup →
      (∀ p ∈ entries, IsName p.1) → (∀ p ∈ entries, Plain p.2) → Plain (.record (named entries))

mutual
/-- How many records lie one inside the other. -/
def levels : Value → Nat
  | .record fields => levelsBelow fields + 1
  | _ => 0

def levelsBelow : List (Key × Value) → Nat
  | [] => 0
  | (_, v) :: rest => max (levels v) (levelsBelow rest)
end

mutual
def element (name : String) : Value → Element
  | .record fields =>
    .mk (.named "div") [("itemprop", name), ("itemscope", "")] "" (elements fields)
  | .list _ => .mk (.named "span") [("itemprop", name ++ "[]")] "" []
  | _ => .mk (.named "span") [("itemprop", name)] "" []

def elements : List (Key × Value) → List Child
  | [] => []
  | (k, v) :: rest => (element k.display v, "") :: elements rest
end

def template (fields : Fields) : Element :=
  .mk (.named "div") [("itemscope", "")] "" (elements fields)

def leaf (name s : String) : Element := .mk (.named "span") [("itemprop", name)] s []

mutual
def filled (name : String) : Value → List Element
  | .record fields =>
    [.mk (.named "div") [("itemprop", name), ("itemscope", "")] "" (filledBelow fields)]
  | .list items => items.map fun v => leaf name v.display
  | v => [leaf name v.display]

def filledBelow : List (Key × Value) → List Child
  | [] => []
  | (k, v) :: rest => (filled k.display v).map (·, "") ++ filledBelow rest
end

theorem filled_text (name s : String) : filled name (.text s) = [leaf name s] := rfl

theorem filled_list (name : String) (texts : List String) :
    filled name (.list (texts.map .text)) = texts.map (leaf name) := by
  simp [filled, Value.display]

/-- The shape of an element whose annotations say no more than this. -/
@[simps] def shape (e : Element) (path : String) (property : Option String)
    (isArray isScope : Bool) : Shape where
  element := e
  path := path
  property := property
  isArray := isArray
  isScope := isScope
  type := none
  filter := none
  constraint := none
  placeholders := []

section shapes

variable {name : String} (h : IsName name) (path : String)
include h

theorem IsName.words : Text.words name = [name] := Text.words_of_forall h.nonempty h.unspaced

theorem IsName.withoutSuffix? : withoutSuffix? "[]" name = none :=
  withoutSuffix?_eq_none h.unmarked

theorem IsName.cleanName : ({} : Vocabulary).cleanName name = name := by
  simp [Vocabulary.cleanName, h.withoutSuffix?]

theorem IsName.ne_idKey : name ≠ idKey := by
  rintro rfl
  exact h.unreserved (by decide)

theorem IsName.includes : Text.includes ['$', '\x7b'] name.toList = false := by
  rw [Bool.eq_false_iff]
  exact fun hi => h.unfilled (Text.includes_iff.mp hi)

theorem IsName.includes_mark :
    Text.includes ['$', '\x7b'] (name.toList ++ ['[', ']']) = false := by
  rw [Text.includes_append_cons (by decide), h.includes]
  rfl

theorem shapeOf_text (tag : Tag) :
    Pattern.shapeOf {} path (.mk tag [("itemprop", name)] "" []) =
      shape (.mk tag [("itemprop", name)] "" []) path (some name) false false := by
  simp [Pattern.shapeOf, shape, Pattern.nonempty?, Element.get, Element.get?, Element.has, lookup?,
    h.nonempty, h.withoutSuffix?, h.includes]

theorem shapeOf_list (tag : Tag) :
    Pattern.shapeOf {} path (.mk tag [("itemprop", name ++ "[]")] "" []) =
      shape (.mk tag [("itemprop", name ++ "[]")] "" []) path (some name) true false := by
  have hs : withoutSuffix? "[]" (name ++ "[]") = some name :=
    withoutSuffix?_append (by decide) h.nonempty
  simp [Pattern.shapeOf, shape, Pattern.nonempty?, Element.get, Element.get?, Element.has, lookup?,
    hs, h.includes_mark]

theorem shapeOf_record (tag : Tag) (children : List Child) :
    Pattern.shapeOf {} path (.mk tag [("itemprop", name), ("itemscope", "")] "" children) =
      shape (.mk tag [("itemprop", name), ("itemscope", "")] "" children) path (some name) false
        true := by
  simp [Pattern.shapeOf, shape, Pattern.nonempty?, Element.get, Element.get?, Element.has, lookup?,
    h.nonempty, h.withoutSuffix?, h.includes, Text.includes]

end shapes

section rendering

variable (c : Config)

def renderer : Renderer := ⟨{ c with vocabulary := {} }, .standard⟩

theorem renderAt_shape {ctx : Context} {path : String} {e e' : Element}
    {property : Option String} {isArray isScope : Bool}
    (h : Pattern.shapeOf {} path e = shape e' path property isArray isScope) :
    (renderer c).renderAt ctx (Pattern.analyzeAt {} path e) =
      (renderer c).renderBound (shape e' path property isArray isScope) e.children.isEmpty
        (fun inner e' => (renderer c).renderBelow inner e'
          (Pattern.analyzeChildren {} path [] e.children)) ctx := by
  obtain ⟨tag, attributes, text, children⟩ := e
  have hl : (Pattern.analyzeChildren {} path [] children).isEmpty = children.isEmpty := by
    cases children <;> rfl
  simp [Pattern.analyzeAt, Renderer.renderAt, h, hl, Renderer.renderShape, Renderer.judge,
    Verdict.ofBool, shape]

theorem write_span (a : List (String × String)) (s : String) :
    (renderer c).write (.mk (.named "span") a "" []) (.text s) =
      .ok (.mk (.named "span") a s []) := rfl

theorem start_shape {r : Renderer} (e : Element) (path : String) (property : Option String)
    (isScope : Bool) (record : Value) :
    r.start (shape e path property false isScope) record = .ok e.shell := rfl

theorem renderAt_text {name s : String} (h : IsName name) (path : String) (ctx : Context)
    (hv : Renderer.valueOf ctx.current name = .text s) :
    (renderer c).renderAt ctx (Pattern.analyzeAt {} path (element name (.text s))) =
      .ok (filled name (.text s)) := by
  rw [element, renderAt_shape c (shapeOf_text h path _)]
  · simp [Renderer.renderBound, Renderer.renderSingle, start_shape, hv, Renderer.writePlain,
      Renderer.withOwnChildren, Element.shell, filled_text, write_span, leaf]
  · simp
  · simp

theorem renderItem_text (name s : String) (path : String) (isLeaf : Bool) (below : Renderer.Below)
    (ctx : Context) :
    (renderer c).renderItem
        (shape (.mk (.named "span") [("itemprop", name ++ "[]")] "" []) path (some name) true false)
        isLeaf below ctx (.text s) = .ok (some (leaf name s)) := by
  have hs : (renderer c).start
      (shape (.mk (.named "span") [("itemprop", name ++ "[]")] "" []) path (some name) true false)
      ctx.current = .ok (.mk (.named "span") [("itemprop", name)] "" []) := rfl
  simp [Renderer.renderItem, Value.isRecord, hs, Renderer.withOwnChildren, write_span, leaf,
    Renderer.markIdentity]

theorem renderAt_list {name : String} (texts : List String) (h : IsName name) (path : String)
    (ctx : Context)
    (hv : Renderer.valueOf ctx.current name = .list (texts.map .text)) :
    (renderer c).renderAt ctx (Pattern.analyzeAt {} path (element name (.list (texts.map .text)))) =
      .ok (filled name (.list (texts.map .text))) := by
  rw [element, renderAt_shape c (shapeOf_list h path _)]
  have hi : ∀ v ∈ texts.map Value.text, (renderer c).renderItem
      (shape (.mk (.named "span") [("itemprop", name ++ "[]")] "" []) path (some name) true false)
      true (fun inner e => (renderer c).renderBelow inner e []) ctx v =
        .ok (some (leaf name v.display)) := by
    intro v hv
    obtain ⟨s, -, rfl⟩ := List.mem_map.mp hv
    exact renderItem_text c name s path true _ ctx
  have hl := Reported.filterMap_eq_ok hi
  simpa [Renderer.renderBound, Renderer.renderList, hv, filled, Pattern.analyzeChildren] using hl

theorem appendAll_eq (e : Element) {es : List Element} (h : es ≠ []) :
    Renderer.appendAll e "" es = .mk e.tag e.attributes e.text (e.children ++ es.map (·, "")) := by
  induction es generalizing e with
  | nil => exact absurd rfl h
  | cons a es ih =>
    cases es with
    | nil => rfl
    | cons b es => simp [Renderer.appendAll, ih, Element.append]

theorem filled_ne_nil {name : String} {v : Value} (h : Plain v) : filled name v ≠ [] := by
  cases h with
  | text _ => simp [filled]
  | list hl _ =>
    rw [filled_list]
    intro hn
    simp [List.map_eq_nil_iff.mp hn] at hl
  | record _ _ _ => simp [filled]

theorem get?_named {entries : List (String × Value)} (h : (entries.map (·.1)).Nodup)
    {p : String × Value} (hp : p ∈ entries) : (named entries).get? p.1 = some p.2 := by
  induction entries with
  | nil => cases hp
  | cons q rest ih =>
    simp only [List.map_cons, List.nodup_cons] at h
    obtain rfl | hp := List.mem_cons.mp hp
    · simp [named, Fields.get?]
    · have hne : q.1 ≠ p.1 := fun he => h.1 (he ▸ List.mem_map_of_mem hp)
      simpa [named, Fields.get?, hne] using ih h.2 hp

theorem get?_named_eq_none {entries : List (String × Value)} {name : String}
    (h : name ∉ entries.map (·.1)) : (named entries).get? name = none := by
  induction entries with
  | nil => rfl
  | cons q rest ih =>
    simp only [List.map_cons, List.mem_cons, not_or] at h
    simpa [named, Fields.get?, Ne.symm h.1] using ih h.2

theorem identifier?_named {entries : List (String × Value)} (h : ∀ p ∈ entries, IsName p.1) :
    (Value.record (named entries)).identifier? = none := by
  have hn : idKey ∉ entries.map (·.1) := by
    intro hm
    obtain ⟨p, hp, he⟩ := List.mem_map.mp hm
    exact (h p hp).ne_idKey he
  simp [Value.identifier?, Value.get?, Value.fields, get?_named_eq_none hn]

theorem renderBelow_elements {entries : List (String × Value)} {ctx : Context}
    (hp : ∀ p ∈ entries, Plain p.2)
    (h : ∀ p ∈ entries, ∀ path, (renderer c).renderAt ctx
      (Pattern.analyzeAt {} path (element p.1 p.2)) = .ok (filled p.1 p.2))
    (path : String) (seen : List String) (e : Element) :
    (renderer c).renderBelow ctx e
        (Pattern.analyzeChildren {} path seen (elements (named entries))) =
      .ok (.mk e.tag e.attributes e.text (e.children ++ filledBelow (named entries))) := by
  induction entries generalizing seen e with
  | nil =>
    obtain ⟨t, a, s, cs⟩ := e
    simp [named, elements, filledBelow, Pattern.analyzeChildren, Renderer.renderBelow]
  | cons p rest ih =>
    have h1 := h p (by simp)
    have ih := ih (fun q hq => hp q (by simp [hq])) (fun q hq => h q (by simp [hq]))
    have hne : filled p.1 p.2 ≠ [] := filled_ne_nil (hp p (by simp))
    simp only [named] at ih
    simp [named, elements, filledBelow, Pattern.analyzeChildren, Renderer.renderBelow, Key.display,
      h1, ih, appendAll_eq _ hne]

theorem valueOf_named {entries : List (String × Value)} {ctx : Context}
    (hc : ctx.current = .record (named entries)) (h : (entries.map (·.1)).Nodup)
    {p : String × Value} (hp : p ∈ entries) : Renderer.valueOf ctx.current p.1 = p.2 := by
  rw [hc, Renderer.valueOf, Value.get?, Value.fields, get?_named h hp]
  rfl

theorem levels_le_levelsBelow {entries : List (String × Value)} {p : String × Value}
    (hp : p ∈ entries) : levels p.2 ≤ levelsBelow (named entries) := by
  induction entries with
  | nil => cases hp
  | cons q rest ih =>
    obtain rfl | hp := List.mem_cons.mp hp
    · exact Nat.le_max_left _ _
    · exact Nat.le_trans (ih hp) (Nat.le_max_right _ _)

theorem renderScope_record {entries : List (String × Value)} (s : Shape) {name : String}
    {ctx : Context} (below : Renderer.Below) (e : Element) (hn : ∀ p ∈ entries, IsName p.1)
    (hd : ctx.depth < c.maxDepth)
    (hv : Renderer.valueOf ctx.current name = .record (named entries)) :
    (renderer c).renderScope s below ctx name e =
      below (ctx.descend (.record (named entries)) false) e := by
  have he : (renderer c).enter s ctx (.record (named entries)) false =
      .ok (some (ctx.descend (.record (named entries)) false)) := by
    have : ¬ (renderer c).config.maxDepth ≤ ctx.depth := Nat.not_le.mpr hd
    simp [Renderer.enter, Renderer.allow, this]
  have hi := identifier?_named hn
  simp [Renderer.renderScope, Renderer.renderNested, hv, Marker.isReference, Marker.target?, he,
    Renderer.markIdentity, hi]

theorem renderAt_element {v : Value} (hv : Plain v) {name : String} (hn : IsName name)
    (path : String) {ctx : Context} (hc : Renderer.valueOf ctx.current name = v)
    (hd : ctx.depth + levels v ≤ c.maxDepth) :
    (renderer c).renderAt ctx (Pattern.analyzeAt {} path (element name v)) =
      .ok (filled name v) := by
  induction hv generalizing name path ctx with
  | text _ => exact renderAt_text c hn path ctx hc
  | list _ _ => exact renderAt_list c _ hn path ctx hc
  | @record entries hnodup hnames hplain ih =>
    simp only [levels] at hd
    have hb := renderBelow_elements c hplain
      (fun p hp path => ih p hp (hnames p hp) path
        (valueOf_named (Context.current_descend ctx _ false) hnodup hp) (by
          have := levels_le_levelsBelow hp
          rw [Context.depth_descend]
          omega))
      path [] (.mk (.named "div") [("itemprop", name), ("itemscope", "")] "" [])
    rw [element, renderAt_shape c (shapeOf_record hn path _ _)]
    simp [Renderer.renderBound, Renderer.renderSingle, start_shape, Element.shell, filled,
      renderScope_record c _ _ _ hnames (by omega) hc, hb]

/-- The mirror of a record with its values written on it. -/
def filledTemplate (fields : Fields) : Element :=
  .mk (.named "div") [("itemscope", "")] "" (filledBelow fields)

theorem render_template {entries : List (String × Value)} (hnodup : (entries.map (·.1)).Nodup)
    (hnames : ∀ p ∈ entries, IsName p.1) (hplain : ∀ p ∈ entries, Plain p.2) (ctx : Context)
    (hd : ctx.depth + levelsBelow (named entries) ≤ c.maxDepth) :
    (renderer c).render (Pattern.analyze {} (template (named entries)))
        (.record (named entries)) ctx =
      .ok [filledTemplate (named entries)] := by
  have hs : Pattern.shapeOf {} "div" (template (named entries)) =
      shape (template (named entries)) "div" none false true := rfl
  have hb := renderBelow_elements c hplain
    (fun p hp path => renderAt_element c (hplain p hp) (hnames p hp) path
      (valueOf_named
        (show { ctx with current := Value.record (named entries) }.current = _ from rfl)
        hnodup hp) (by
          have := levels_le_levelsBelow hp
          dsimp only
          omega))
    "div" [] (.mk (.named "div") [("itemscope", "")] "" [])
  have hi := identifier?_named hnames
  have hp : Pattern.stepName (template (named entries)) = "div" := rfl
  rw [Renderer.render, Pattern.analyze, hp, renderAt_shape c hs]
  simp [Renderer.renderBound, Renderer.renderSingle, start_shape, Element.shell, template, hb,
    Renderer.markIdentity, hi, filledTemplate]

end rendering

section reading

def offered (name : String) : Value → List (String × Value)
  | .list items => items.map fun v => (name, v)
  | v => [(name, v)]

def offeredBy (entries : List (String × Value)) : List (String × Value) :=
  entries.flatMap fun (n, v) => offered n v

theorem contributionsBelow_append {d : Dialect} {a b : List Child} {xs ys : List (String × Value)}
    (ha : d.contributionsBelow a = .ok xs) (hb : d.contributionsBelow b = .ok ys) :
    d.contributionsBelow (a ++ b) = .ok (xs ++ ys) := by
  induction a generalizing xs with
  | nil =>
    obtain rfl : [] = xs := by simpa [Dialect.contributionsBelow] using ha
    exact hb
  | cons c a ih =>
    obtain ⟨e, s⟩ := c
    cases he : d.contributions e with
    | error f => simp [Dialect.contributionsBelow, he, bind, Except.bind] at ha
    | ok first =>
      cases hr : d.contributionsBelow a with
      | error f => simp [Dialect.contributionsBelow, he, hr, bind, Except.bind] at ha
      | ok rest =>
        obtain rfl : first ++ rest = xs := by
          simpa [Dialect.contributionsBelow, he, hr, bind, Except.bind] using ha
        simp [Dialect.contributionsBelow, he, ih hr, bind, Except.bind]

theorem contributions_leaf {name s : String} (h : IsName name) (hs : IsTrimmed s) :
    ({} : Dialect).contributions (leaf name s) = .ok [(name, .text s)] := by
  have hp : ({} : Dialect).properties (leaf name s) = [name] := by
    simp [Dialect.properties, leaf, Element.get, Element.get?, lookup?, h.words, h.cleanName]
  have hv : plainValue (leaf name s) = s := by
    have ha : valueAttribute? (leaf name s).tagName = none := rfl
    rw [plainValue, ha]
    simpa [leaf, Element.textContent, Element.textContents] using hs.eq
  simp only [leaf] at hp hv
  simp [leaf, Dialect.contributions, Dialect.contributionsBelow, hp, hv, Element.has, Element.get?,
    lookup?, bind, Except.bind]

theorem contributionsBelow_leaves {name : String} {texts : List String} (h : IsName name)
    (hs : ∀ s ∈ texts, IsTrimmed s) :
    ({} : Dialect).contributionsBelow ((texts.map (leaf name)).map (·, "")) =
      .ok (offered name (.list (texts.map .text))) := by
  induction texts with
  | nil => rfl
  | cons s rest ih =>
    have h1 := contributions_leaf h (hs s (by simp))
    have h2 := ih fun t ht => hs t (by simp [ht])
    simp only [List.map_cons, Dialect.contributionsBelow, h1, h2]
    rfl

theorem contribute_new {done : Fields} {name : String} (h : done.get? name = none) (v : Value) :
    done.contribute name v = done ++ [(.text name, v)] := by
  have hp := Fields.put_append h [] v
  simpa [Fields.contribute, h, Fields.put] using hp

theorem contribute_text {done : Fields} {name : String} (h : done.get? name = none)
    (s : String) (v : Value) :
    Fields.contribute (done ++ [(.text name, .text s)]) name v =
      done ++ [(.text name, .list [.text s, v])] := by
  have hg : Fields.get? name (done ++ [(.text name, .text s)]) = some (.text s) := by
    simp [Fields.get?_append, h, Fields.get?]
  simp [Fields.contribute, hg, Fields.put_append h, Fields.put]

theorem contribute_list {done : Fields} {name : String} (h : done.get? name = none)
    (items : List Value) (v : Value) :
    Fields.contribute (done ++ [(.text name, .list items)]) name v =
      done ++ [(.text name, .list (items ++ [v]))] := by
  have hg : Fields.get? name (done ++ [(.text name, .list items)]) = some (.list items) := by
    simp [Fields.get?_append, h, Fields.get?]
  simp [Fields.contribute, hg, Fields.put_append h, Fields.put]

theorem gather_list {done : Fields} {name : String} (h : done.get? name = none)
    (items more : List Value) :
    Fields.gather (done ++ [(.text name, .list items)]) (more.map fun v => (name, v)) =
      done ++ [(.text name, .list (items ++ more))] := by
  induction more generalizing items with
  | nil => simp [Fields.gather]
  | cons v more ih =>
    have hc := contribute_list h items v
    have hi := ih (items ++ [v])
    simp only [Fields.gather, List.map_cons, List.foldl_cons] at hi ⊢
    rw [hc, hi]
    simp

/-- Gathering what one property offers adds it behind what was gathered before. -/
theorem gather_offered {done : Fields} {name : String} (h : done.get? name = none) {v : Value}
    (hv : Plain v) : done.gather (offered name v) = done ++ [(.text name, v)] := by
  cases hv with
  | text _ => exact contribute_new h _
  | record _ _ _ => exact contribute_new h _
  -- the first text is kept as it is, the second makes a list of both, the others join it
  | @list texts hl _ =>
    match texts, hl with
    | s :: t :: rest, _ =>
      have hr := gather_list h [.text s, .text t] (rest.map .text)
      simp only [Fields.gather, offered, List.map_cons, List.foldl_cons, contribute_new h,
        contribute_text h] at hr ⊢
      exact hr

theorem gather_offeredBy {done : Fields} {entries : List (String × Value)}
    (hnodup : (entries.map (·.1)).Nodup) (hplain : ∀ p ∈ entries, Plain p.2)
    (hnew : ∀ p ∈ entries, done.get? p.1 = none) :
    done.gather (offeredBy entries) = done ++ named entries := by
  induction entries generalizing done with
  | nil => simp [offeredBy, named, Fields.gather]
  | cons p rest ih =>
    obtain ⟨name, v⟩ := p
    simp only [List.map_cons, List.nodup_cons] at hnodup
    have h1 := gather_offered (hnew (name, v) (by simp)) (hplain (name, v) (by simp))
    have h2 : Fields.gather (done ++ [(.text name, v)]) (offeredBy rest) =
        done ++ [(.text name, v)] ++ named rest := by
      refine ih hnodup.2 (fun q hq => hplain q (by simp [hq])) fun q hq => ?_
      have hne : name ≠ q.1 := fun he => hnodup.1 (he ▸ List.mem_map_of_mem hq)
      simp [Fields.get?_append, hnew q (by simp [hq]), Fields.get?, hne]
    simp only [Fields.gather, offeredBy, List.flatMap_cons, List.foldl_append] at h1 h2 ⊢
    rw [h1, h2]
    simp [named]

theorem gather_nil {entries : List (String × Value)} (hnodup : (entries.map (·.1)).Nodup)
    (hplain : ∀ p ∈ entries, Plain p.2) : Fields.gather [] (offeredBy entries) = named entries :=
  gather_offeredBy hnodup hplain fun _ _ => rfl

theorem contributionsBelow_filledBelow {entries : List (String × Value)}
    (h : ∀ p ∈ entries, ({} : Dialect).contributionsBelow ((filled p.1 p.2).map (·, "")) =
      .ok (offered p.1 p.2)) :
    ({} : Dialect).contributionsBelow (filledBelow (named entries)) = .ok (offeredBy entries) := by
  induction entries with
  | nil => rfl
  | cons p rest ih =>
    have h1 := h p (by simp)
    have h2 := ih fun q hq => h q (by simp [hq])
    exact contributionsBelow_append h1 h2

theorem contributions_filled {v : Value} (hv : Plain v) {name : String} (hn : IsName name) :
    ({} : Dialect).contributionsBelow ((filled name v).map (·, "")) = .ok (offered name v) := by
  induction hv generalizing name with
  | text hs =>
    have hl := contributions_leaf hn hs
    simp [filled_text, Dialect.contributionsBelow, hl, offered, bind, Except.bind]
  | list _ hs =>
    rw [filled_list]
    exact contributionsBelow_leaves hn hs
  | @record entries hnodup hnames hplain ih =>
    have hb := contributionsBelow_filledBelow fun p hp => ih p hp (hnames p hp)
    have hg := gather_nil hnodup hplain
    have hp (cs : List Child) : ({} : Dialect).properties
        (.mk (.named "div") [("itemprop", name), ("itemscope", "")] "" cs) = [name] := by
      simp [Dialect.properties, Element.get, Element.get?, lookup?, hn.words, hn.cleanName]
    have hi (cs : List Child) : ({} : Dialect).identity
        (.mk (.named "div") [("itemprop", name), ("itemscope", "")] "" cs) = .ok [] := rfl
    simp [filled, Dialect.contributionsBelow, Dialect.contributions, hp, hi, hb, hg, offered,
      Element.has, Element.get?, lookup?, bind, Except.bind]

theorem extract_filledTemplate {entries : List (String × Value)}
    (hnodup : (entries.map (·.1)).Nodup) (hnames : ∀ p ∈ entries, IsName p.1)
    (hplain : ∀ p ∈ entries, Plain p.2) :
    ({} : Dialect).extract (filledTemplate (named entries)) = .ok (named entries) := by
  have hb := contributionsBelow_filledBelow fun p hp =>
    contributions_filled (hplain p hp) (hnames p hp)
  have hg := gather_nil hnodup hplain
  have hi : ({} : Dialect).identity (filledTemplate (named entries)) = .ok [] := rfl
  have hc : (filledTemplate (named entries)).children = filledBelow (named entries) := rfl
  simp only [Dialect.extract, hi, hc, hb, bind, Except.bind, hg]

end reading

/-- A record rendered on its mirror gives one element and no diagnostic, and the record is read back
from that element, with its entries in order. -/
theorem extract_render (c : Config) {fields : Fields} (h : Plain (.record fields)) (ctx : Context)
    (hd : ctx.depth + levelsBelow fields ≤ c.maxDepth) :
    ∃ e, ((renderer c).render (Pattern.analyze {} (template fields)) (.record fields) ctx).run =
        .ok ([e], []) ∧
      ({} : Dialect).extract e = .ok fields := by
  cases h with
  | record hnodup hnames hplain =>
    have hr := render_template c hnodup hnames hplain ctx hd
    exact ⟨_, congrArg Reported.run hr, extract_filledTemplate hnodup hnames hplain⟩

theorem isName_of_all {name : String} (hne : name ≠ "")
    (hb : (name.toList.all fun c => !Text.isBlank c) = true)
    (hf : ¬ ['$', '\x7b'] <:+: name.toList) (ha : name.toList.head? ≠ some '@')
    (hm : 2 < name.length → ¬ "[]".toList <:+ name.toList) : IsName name where
  nonempty := hne
  unspaced := by simpa using hb
  unfilled := hf
  unreserved := ha
  unmarked := hm

def book : Fields :=
  named [("name", .text "Lean"), ("by", .list (["Ann", "Bob"].map .text)),
    ("from", .record (named [("name", .text "P & Q")]))]

theorem plain_book : Plain (.record book) := by
  refine .record (by decide) ?_ ?_
  · simp only [List.forall_mem_cons]
    exact ⟨isName_of_all (by decide) (by decide) (by decide) (by decide) (by decide),
      isName_of_all (by decide) (by decide) (by decide) (by decide) (by decide),
      isName_of_all (by decide) (by decide) (by decide) (by decide) (by decide), by simp⟩
  · simp only [List.forall_mem_cons]
    refine ⟨.text ⟨rfl⟩, .list (by decide) ?_, .record (by decide) ?_ ?_, by simp⟩
    · simp only [List.forall_mem_cons]
      exact ⟨⟨rfl⟩, ⟨rfl⟩, by simp⟩
    · simp only [List.forall_mem_cons]
      exact ⟨isName_of_all (by decide) (by decide) (by decide) (by decide) (by decide), by simp⟩
    · simp only [List.forall_mem_cons]
      exact ⟨.text ⟨rfl⟩, by simp⟩

theorem extract_render_book :
    Plain (.record book) ∧ 0 + levelsBelow book ≤ 1 ∧
      ∃ e, ((renderer { maxDepth := 1 }).render (Pattern.analyze {} (template book)) (.record book)
          (.ofRoot (.record book) [.record book, .none] "http://example.com/")).run =
            .ok ([e], []) ∧
        ({} : Dialect).extract e = .ok book :=
  ⟨plain_book, by decide, extract_render { maxDepth := 1 } plain_book
    (.ofRoot (.record book) [.record book, .none] "http://example.com/")
    (show 0 + levelsBelow book ≤ 1 by decide)⟩

end Microdata.Mirror
