import Microdata.Proofs.Binding.Copies
import Microdata.Proofs.Binding.Setters
set_option autoImplicit false

/-!
The tags and the attributes of what is rendered. Every element of the output is a copy that was
begun for a record (`CopyOf`), and from then on it is dressed: content is put into it, a value is
written on it, and the location of a record is set (`Dressed`). Main statement: `attributes_kept`,
only the attributes that one of these steps is for differ from the template.
-/

namespace Microdata

open Reported

def Target.attributes : Target → List String
  | content => []
  | «attribute» name => [name]
  | input => ["value", "checked"]
  | choice | selection => ["selected"]

section

variable {t : Target} {e e' : Element} {v : Value} {x : String}

theorem Target.tag_write (h : t.write e v = .ok e') : e'.tag = e.tag := by
  cases t with
  | content | «attribute» name =>
    obtain ⟨s, -, rfl⟩ := map_eq_ok.mp h
    rfl
  | input =>
    rw [write] at h
    split at h
    · cases h
      exact Element.tag_toggle
    · obtain ⟨s, -, rfl⟩ := map_eq_ok.mp h
      rfl
  | choice =>
    obtain ⟨s, -, rfl⟩ := map_eq_ok.mp h
    exact e.tag_selectOptions s
  | selection =>
    cases h
    exact Element.tag_toggle

/-- A choice is written on the options below its element, so on the element itself only if that is
one. -/
theorem Target.get?_write (h : t.write e v = .ok e')
    (hx : ¬ (x ∈ t.attributes ∧ (t = .choice → e.isTagged "option" = true))) :
    e'.get? x = e.get? x := by
  cases t with
  | content =>
    obtain ⟨s, -, rfl⟩ := map_eq_ok.mp h
    rfl
  | «attribute» name =>
    obtain ⟨s, -, rfl⟩ := map_eq_ok.mp h
    exact Element.get?_set_ne fun hn => hx ⟨by simp [attributes, hn], fun hc => by cases hc⟩
  | input =>
    have hne (name : String) (hname : name ∈ input.attributes) : name ≠ x :=
      fun hn => hx ⟨hn ▸ hname, fun hc => by cases hc⟩
    rw [write] at h
    split at h
    · cases h
      exact Element.get?_toggle_ne (hne "checked" (by decide))
    · obtain ⟨s, -, rfl⟩ := map_eq_ok.mp h
      exact Element.get?_set_ne (hne "value" (by decide))
  | choice =>
    obtain ⟨s, -, rfl⟩ := map_eq_ok.mp h
    by_cases hselected : x = "selected"
    · subst hselected
      have hother : e.isTagged "option" = false := by
        simpa [attributes] using hx
      rw [Element.selectOptions_eq, hother]
      rfl
    · exact Element.get?_selectOptions hselected
  | selection =>
    cases h
    exact Element.get?_toggle_ne fun hn => hx ⟨by simp [attributes, hn], fun hc => by cases hc⟩

end

namespace Registry

/-- Whether the setter for an element may change an attribute of it. -/
def Changes (r : Registry) (e : Element) (x : String) : Prop :=
  x ∈ (r.target e.tagName).attributes ∧
    (r.target e.tagName = .choice → e.isTagged "option" = true)

variable {r : Registry} {e e' : Element} {v : Value} {x : String}

theorem changes_congr (h : e'.tag = e.tag) : r.Changes e' x ↔ r.Changes e x := by
  simp only [Changes, Element.tagName, Element.isTagged, h]

def writtenAttributes (tag : String) : List String :=
  match tag with
  | "input" => ["value", "checked"]
  | "option" => ["selected"]
  | "meta" => ["content"]
  | "img" | "audio" | "video" | "source" | "embed" | "iframe" => ["src"]
  | "link" => ["href"]
  | "object" => ["data"]
  | "time" => ["datetime"]
  | "data" | "meter" | "progress" => ["value"]
  | _ => []

theorem tagName_of_isTagged_option (h : e.isTagged "option" = true) : e.tagName = "option" := by
  have htag : e.tag = .named "option" := by simpa [Element.isTagged] using h
  rw [Element.tagName, htag]
  decide

theorem mem_writtenAttributes (h : standard.Changes e x) : x ∈ writtenAttributes e.tagName := by
  obtain ⟨hmem, hchoice⟩ := h
  by_cases hknown : e.tagName ∈ knownTags
  · obtain ⟨hc, hselect⟩ | hsame := (show ∀ tag ∈ knownTags,
      (standard.target tag = .choice ∧ tag = "select") ∨
        (standard.target tag).attributes = writtenAttributes tag by decide) e.tagName hknown
    · exact absurd ((tagName_of_isTagged_option (hchoice hc)).symm.trans hselect) (by decide)
    · exact hsame ▸ hmem
  · rw [target_of_unknown hknown] at hmem
    cases hmem

end Registry

namespace Renderer

variable {r : Renderer} {s : Shape} {isLeaf : Bool} {below : Below} {c : Context} {record : Value}
  {begun e e' : Element} {es : List Element} {ds : List Diagnostic} {x : String}

/-- An element of the output and the record that its copy was begun for: a record that the filter
has found or the one in its place, an item that is a record, and else the record at hand. -/
inductive CopyOf (r : Renderer) (s : Shape) (isLeaf : Bool) (below : Below) (c : Context) :
    Value → Element → Prop
  | found {property : String} {record : Value} {e : Element} (filter : s.filter = some property)
    (mem : record ∈ r.config.marker.referencing property (valueOf c.current idKey) c.batch)
    (made : r.IsMatchCopy s isLeaf below c record e) :
    CopyOf r s isLeaf below c (r.taken s c.batch record) e
  | item {property : String} {inner : Context} {items : List Value} {item : Value} {e : Element}
    (filter : s.filter = none) (isArray : s.isArray = true) (bound : s.property = some property)
    (active : Active r s c inner)
    (held : valueOf inner.current property = .list items ∨
      valueOf inner.current property = .tuple items)
    (mem : item ∈ items) (made : r.IsItemCopy s isLeaf below inner item e) :
    CopyOf r s isLeaf below c (if item.isRecord then item else inner.current) e
  | unset {property : String} {inner : Context} {begun : Element}
    (filter : s.filter = none) (isArray : s.isArray = true) (bound : s.property = some property)
    (active : Active r s c inner) (held : valueOf inner.current property = .none)
    (start : Gives (r.start s inner.current) begun) :
    CopyOf r s isLeaf below c inner.current (withOwnChildren s begun)
  | single {inner : Context} {e : Element} (filter : s.filter = none)
    (unrepeated : s.isArray = true → s.property = none) (active : Active r s c inner)
    (made : Gives (r.renderSingle s below inner) e) : CopyOf r s isLeaf below c inner.current e

theorem exists_active (hf : s.filter = none)
    (h : (r.renderShape s isLeaf below c).run = .ok (es, ds)) (he : e ∈ es) :
    ∃ inner more, Active r s c inner ∧
      (r.renderBound s isLeaf below inner).run = .ok (es, more) := by
  simp only [renderShape, hf] at h
  obtain ⟨verdict, first, more, hjudge, hmore, -⟩ := run_bind_eq_ok.mp h
  have hnil {ds : List Diagnostic} (h : (Reported.ok []).run = .ok (es, ds)) : False := by
    obtain ⟨rfl, -⟩ := run_ok_eq_ok.mp h
    cases he
  split at hmore
  case isFalse => exact (hnil hmore).elim
  case isTrue hpassed =>
    split at hmore
    · rename_i hresolved
      exact ⟨c, more, .own hjudge hpassed hresolved, hmore⟩
    · rename_i fields hresolved
      obtain ⟨entered, _, last, hentered, hlast, -⟩ := run_bind_eq_ok.mp hmore
      obtain ⟨hfree, rfl, -⟩ | ⟨-, rfl, -⟩ := enter_fate hentered
      · exact ⟨_, last, .requested hjudge hpassed hresolved hfree, hlast⟩
      · exact (hnil hlast).elim

theorem exists_copyOf (hb : ∀ inner e, Only (fun d => d.path ≠ s.path) (below inner e))
    (h : (r.renderShape s isLeaf below c).run = .ok (es, ds)) (he : e ∈ es) :
    ∃ record, CopyOf r s isLeaf below c record e := by
  cases hf : s.filter with
  | some property =>
    simp only [renderShape, hf, Marker.filter_pointsAt] at h
    obtain ⟨_, -, h⟩ := run_lift_bind_eq_ok.mp h
    obtain ⟨record, hmem, _, hmatch⟩ := exists_of_filterMap h he
    cases fate_renderMatch hb hmatch with
    | made _ _ made _ => exact ⟨_, .found hf hmem made⟩
  | none =>
    obtain ⟨inner, more, hactive, hbound⟩ := exists_active hf h he
    unfold renderBound at hbound
    split at hbound
    · rename_i property harray hproperty
      have hitem {items : List Value}
          (hitems : valueOf inner.current property = .list items ∨
            valueOf inner.current property = .tuple items)
          (h : (Reported.filterMap (r.renderItem s isLeaf below inner) items).run =
            .ok (es, more)) : ∃ record, CopyOf r s isLeaf below c record e := by
        obtain ⟨item, hmem, _, hitem⟩ := exists_of_filterMap h he
        cases fate_renderItem hb hitem with
        | made _ _ made _ => exact ⟨_, .item hf harray hproperty hactive hitems hmem made⟩
      unfold renderList at hbound
      split at hbound
      · rename_i hheld
        obtain ⟨begun, _, _, hstart, h, -⟩ := run_bind_eq_ok.mp hbound
        obtain ⟨rfl, -⟩ := run_ok_eq_ok.mp h
        obtain rfl := List.mem_singleton.mp he
        exact ⟨_, .unset hf harray hproperty hactive hheld ⟨_, hstart⟩⟩
      · rename_i items hheld
        exact hitem (.inl hheld) hbound
      · rename_i items hheld
        exact hitem (.inr hheld) hbound
      · obtain ⟨_, _, _, -, h, -⟩ := run_bind_eq_ok.mp hbound
        obtain ⟨rfl, -⟩ := run_ok_eq_ok.mp h
        cases he
    · rename_i hsingle
      obtain ⟨single, _, _, hmade, h, -⟩ := run_bind_eq_ok.mp hbound
      obtain ⟨rfl, -⟩ := run_ok_eq_ok.mp h
      obtain rfl := List.mem_singleton.mp he
      refine ⟨_, .single hf (fun harray => ?_) hactive ⟨_, hmade⟩⟩
      cases hp : s.property with
      | none => rfl
      | some property => exact absurd hp (hsingle property harray)

/-- What a copy can become: its content is put into it, a value is written on it, or it gets the
location of a record. -/
inductive Dressed (r : Renderer) (s : Shape) (begun : Element) : Element → Prop
  | begun : Dressed r s begun begun
  | filled {e e' : Element} (h : Dressed r s begun e) (tag : e'.tag = e.tag)
    (attributes : e'.attributes = e.attributes) : Dressed r s begun e'
  | written {e e' : Element} {v : Value} (h : Dressed r s begun e)
    (write : r.setters.write e v = .ok e') : Dressed r s begun e'
  | located {e : Element} (h : Dressed r s begun e) (isScope : s.isScope = true)
    (location : String) : Dressed r s begun (e.set r.config.vocabulary.itemId location)

namespace Dressed

theorem tag (h : Dressed r s begun e) : e.tag = begun.tag := by
  induction h with
  | begun => rfl
  | filled _ tag _ ih => exact tag.trans ih
  | written _ write ih => exact (Target.tag_write (Registry.target_write_of_write write)).trans ih
  | located _ _ _ ih => exact ih

theorem get?_eq (h : Dressed r s begun e) (hset : ¬ r.setters.Changes begun x)
    (hlocation : s.isScope = true → x ≠ r.config.vocabulary.itemId) :
    e.get? x = begun.get? x := by
  induction h with
  | begun => rfl
  | filled _ _ attributes ih =>
    rw [← ih, Element.get?, attributes]
    rfl
  | written h write ih =>
    have hkept := mt (Registry.changes_congr h.tag).mp hset
    exact (Target.get?_write (Registry.target_write_of_write write) hkept).trans ih
  | located _ isScope location ih =>
    exact (Element.get?_set_ne (hlocation isScope).symm).trans ih

theorem withOwnChildren (h : Dressed r s begun e) : Dressed r s begun (withOwnChildren s e) :=
  h.filled rfl rfl

theorem markIdentity (h : Dressed r s begun e)
    (hm : (r.markIdentity s c record e).run = .ok (e', ds)) : Dressed r s begun e' := by
  obtain rfl | ⟨hscope, location, rfl⟩ := Renderer.eq_or_located_of_markIdentity hm
  · exact h
  · exact h.located hscope location

theorem writePlain (h : Dressed r s begun e) {v : Value}
    (hw : (r.writePlain e v).run = .ok (e', ds)) : Dressed r s begun e' := by
  unfold Renderer.writePlain at hw
  split at hw
  · exact (run_ok_eq_ok.mp hw).1 ▸ h
  · exact (run_ok_eq_ok.mp hw).1 ▸ h
  · exact h.written (run_lift_eq_ok.mp hw).1

theorem writeLeaf (h : Dressed r s begun e)
    (hw : (r.writeLeaf s isLeaf record e).run = .ok (e', ds)) : Dressed r s begun e' := by
  unfold Renderer.writeLeaf at hw
  split at hw
  · exact h.writePlain hw
  · exact (run_ok_eq_ok.mp hw).1 ▸ h

theorem writeItem (h : Dressed r s begun e) {item : Value}
    (hw : (r.writeItem s item e).run = .ok (e', ds)) : Dressed r s begun e' := by
  unfold Renderer.writeItem at hw
  split at hw
  · exact (run_ok_eq_ok.mp hw).1 ▸ h.withOwnChildren
  · exact h.withOwnChildren.written (run_lift_eq_ok.mp hw).1

end Dressed

def FillsOnly (below : Below) : Prop :=
  ∀ c e e' ds, (below c e).run = .ok (e', ds) → e'.tag = e.tag ∧ e'.attributes = e.attributes

theorem tag_appendAll (e : Element) (tail : String) (es : List Element) :
    (appendAll e tail es).tag = e.tag ∧ (appendAll e tail es).attributes = e.attributes := by
  fun_induction appendAll e tail es with
  | case1 e => exact ⟨e.tag_appendText tail, e.attributes_appendText tail⟩
  | case2 e last => exact ⟨rfl, rfl⟩
  | case3 e first rest hne ih => exact ih

theorem fillsOnly_renderBelow (r : Renderer) (children : List (Pattern × String)) :
    FillsOnly fun c e => r.renderBelow c e children := by
  intro c e e' ds h
  dsimp only at h
  induction children generalizing e ds with
  | nil =>
    rw [renderBelow] at h
    obtain ⟨rfl, -⟩ := run_ok_eq_ok.mp h
    exact ⟨rfl, rfl⟩
  | cons child rest ih =>
    rw [renderBelow] at h
    obtain ⟨es, _, _, -, h, -⟩ := run_bind_eq_ok.mp h
    obtain ⟨htag, hattributes⟩ := ih _ _ h
    obtain ⟨htag', hattributes'⟩ := tag_appendAll e child.2 es
    exact ⟨htag.trans htag', hattributes.trans hattributes'⟩

abbrev BegunFor (r : Renderer) (s : Shape) (record : Value) (e : Element) : Prop :=
  ∃ begun, Gives (r.start s record) begun ∧ Dressed r s begun e

section

variable (hb : FillsOnly below)
include hb

theorem Dressed.fillBelow (h : Dressed r s begun e) (hw : (below c e).run = .ok (e', ds)) :
    Dressed r s begun e' :=
  have hfilled := hb c e e' ds hw
  h.filled hfilled.1 hfilled.2

theorem begunFor_matchCopy {inner : Context}
    (h : Gives (r.matchCopy s isLeaf below c inner record) e) : BegunFor r s record e := by
  obtain ⟨ds, h⟩ := h
  obtain ⟨begun, _, _, hstart, h, -⟩ := run_bind_eq_ok.mp h
  obtain ⟨filled, _, _, hbelow, h, -⟩ := run_bind_eq_ok.mp h
  obtain ⟨written, _, _, hwrite, hmark, -⟩ := run_bind_eq_ok.mp h
  exact ⟨begun, ⟨_, hstart⟩,
    ((Dressed.begun.fillBelow hb hbelow).writeLeaf hwrite).markIdentity hmark⟩

theorem begunFor_itemCopy {inner : Context} {item : Value}
    (h : Gives (r.itemCopy s isLeaf below c inner item) e) :
    BegunFor r s (if item.isRecord then item else c.current) e := by
  obtain ⟨ds, h⟩ := h
  unfold itemCopy at h
  split at h
  · rename_i henters
    have hrecord : item.isRecord = true := (Bool.and_eq_true_iff.mp henters).1
    obtain ⟨begun, _, _, hstart, h, -⟩ := run_bind_eq_ok.mp h
    obtain ⟨filled, _, _, hbelow, hmark, -⟩ := run_bind_eq_ok.mp h
    rw [if_pos hrecord]
    exact ⟨begun, ⟨_, hstart⟩, (Dressed.begun.fillBelow hb hbelow).markIdentity hmark⟩
  · obtain ⟨begun, _, _, hstart, h, -⟩ := run_bind_eq_ok.mp h
    obtain ⟨written, _, _, hwrite, hmark, -⟩ := run_bind_eq_ok.mp h
    exact ⟨begun, ⟨_, hstart⟩, (Dressed.begun.writeItem hwrite).markIdentity hmark⟩

theorem dressed_renderNested {property : String} {v nested : Value} {linked : Bool}
    (h : Dressed r s begun e)
    (hn : (r.renderNested s below c property v linked nested e).run = .ok (e', ds)) :
    Dressed r s begun e' := by
  have hkept {d : List Diagnostic}
      (hk : (Reported.ok (withOwnChildren s e)).run = .ok (e', d)) : Dressed r s begun e' :=
    (run_ok_eq_ok.mp hk).1 ▸ h.withOwnChildren
  unfold renderNested at hn
  split at hn
  · obtain ⟨_, _, _, -, hn, -⟩ := run_bind_eq_ok.mp hn
    exact hkept hn
  · obtain ⟨entered, _, _, -, hn, -⟩ := run_bind_eq_ok.mp hn
    split at hn
    · exact hkept hn
    · obtain ⟨filled, _, _, hbelow, hmark, -⟩ := run_bind_eq_ok.mp hn
      exact (h.fillBelow hb hbelow).markIdentity hmark
  · obtain ⟨_, _, _, -, hn, -⟩ := run_bind_eq_ok.mp hn
    exact hkept hn

theorem begunFor_renderSingle (h : Gives (r.renderSingle s below c) e) :
    BegunFor r s c.current e := by
  obtain ⟨ds, h⟩ := h
  obtain ⟨begun, _, _, hstart, h, -⟩ := run_bind_eq_ok.mp h
  refine ⟨begun, ⟨_, hstart⟩, ?_⟩
  split at h
  · obtain ⟨filled, _, _, hbelow, hmark, -⟩ := run_bind_eq_ok.mp h
    exact (Dressed.begun.fillBelow hb hbelow).markIdentity hmark
  · split at h
    · unfold renderScope at h
      split at h
      · exact (run_ok_eq_ok.mp h).1 ▸ Dressed.begun.withOwnChildren
      · split at h <;> exact dressed_renderNested hb .begun h
    · exact Dressed.begun.withOwnChildren.writePlain h

theorem CopyOf.begunFor (h : CopyOf r s isLeaf below c record e) : BegunFor r s record e := by
  cases h with
  | found _ _ made => exact begunFor_matchCopy hb made
  | item _ _ _ _ _ _ made => exact begunFor_itemCopy hb made
  | unset _ _ _ _ _ start => exact ⟨_, start, Dressed.begun.withOwnChildren⟩
  | single _ _ _ made => exact begunFor_renderSingle hb made

end

theorem tag_fillAttributes {templates : List (String × String)}
    (h : fillAttributes record e templates = .ok e') : e'.tag = e.tag := by
  induction templates generalizing e with
  | nil => exact Except.ok.inj h ▸ rfl
  | cons p rest ih =>
    obtain ⟨v, -, hr⟩ := bind_eq_ok.mp h
    exact (ih hr).trans (e.tag_set p.1 v)

theorem get?_fillAttributes {templates : List (String × String)}
    (h : fillAttributes record e templates = .ok e') (hx : x ∉ templates.map (·.1)) :
    e'.get? x = e.get? x := by
  induction templates generalizing e with
  | nil => exact Except.ok.inj h ▸ rfl
  | cons p rest ih =>
    obtain ⟨name, template⟩ := p
    obtain ⟨hname, hrest⟩ := not_or.mp (mt List.mem_cons.mpr hx)
    obtain ⟨v, -, hr⟩ := bind_eq_ok.mp h
    exact (ih hr hrest).trans (Element.get?_set_ne (Ne.symm hname))

def unmarked (r : Renderer) (s : Shape) : Element :=
  match s.isArray, s.property with
  | true, some p => s.element.shell.set r.config.vocabulary.binding p
  | _, _ => s.element.shell

theorem gives_start (h : Gives (r.start s record) begun) :
    fillAttributes record (r.unmarked s) s.placeholders = .ok begun := by
  obtain ⟨ds, h⟩ := h
  exact (run_lift_eq_ok.mp h).1

theorem tag_unmarked (r : Renderer) (s : Shape) : (r.unmarked s).tag = s.element.tag := by
  unfold unmarked
  split <;> rfl

theorem get?_unmarked (hx : s.isArray = true → x ≠ r.config.vocabulary.binding) :
    (r.unmarked s).get? x = s.element.get? x := by
  unfold unmarked
  split
  · rename_i harray _
    exact Element.get?_set_ne (hx harray).symm
  · rfl

/-- The attributes of an element that rendering may change: the binding of a list, what holds the
beginning of a placeholder, the location of a scope, and what its tag has for a value. -/
inductive Owns (v : Vocabulary) (s : Shape) : String → Prop
  | binding (isArray : s.isArray = true) : Owns v s v.binding
  | placeholder {name text : String} (mem : (name, text) ∈ s.element.attributes)
    (begins : Text.includes ['$', '\x7b'] text.toList = true) : Owns v s name
  | location (isScope : s.isScope = true) : Owns v s v.itemId
  | value {name : String} (mem : name ∈ Registry.writtenAttributes s.element.tagName) :
    Owns v s name

theorem BegunFor.kept (hs : r.setters = .standard)
    (hplaceholders : s.placeholders =
      s.element.attributes.filter fun p => Text.includes ['$', '\x7b'] p.2.toList)
    (h : BegunFor r s record e) :
    e.tag = s.element.tag ∧
      ∀ x, ¬ Owns r.config.vocabulary s x → e.get? x = s.element.get? x := by
  obtain ⟨begun, hstart, hdressed⟩ := h
  have hfill := gives_start hstart
  have htag : begun.tag = s.element.tag := (tag_fillAttributes hfill).trans (tag_unmarked r s)
  refine ⟨hdressed.tag.trans htag, fun x hx => ?_⟩
  have hset : ¬ r.setters.Changes begun x := by
    rw [hs, Registry.changes_congr htag]
    exact fun hc => hx (.value (Registry.mem_writtenAttributes hc))
  have hlocation : s.isScope = true → x ≠ r.config.vocabulary.itemId := by
    rintro hscope rfl
    exact hx (.location hscope)
  have hbinding : s.isArray = true → x ≠ r.config.vocabulary.binding := by
    rintro harray rfl
    exact hx (.binding harray)
  have hnames : x ∉ s.placeholders.map (·.1) := by
    intro hmem
    obtain ⟨⟨name, text⟩, hp, rfl⟩ := List.mem_map.mp hmem
    rw [hplaceholders] at hp
    obtain ⟨hp, hbegins⟩ := List.mem_filter.mp hp
    exact hx (.placeholder hp hbegins)
  rw [hdressed.get?_eq hset hlocation, get?_fillAttributes hfill hnames, get?_unmarked hbinding]

section

variable {v : Vocabulary} {root : Element} {p : Pattern}

abbrev Copies (r : Renderer) (p : Pattern) (c : Context) : Value → Element → Prop :=
  CopyOf r p.shape p.children.isEmpty (fun inner e => r.renderBelow inner e p.children) c

theorem Copies.begunFor (h : Copies r p c record e) : BegunFor r p.shape record e :=
  CopyOf.begunFor (fillsOnly_renderBelow r p.children) h

theorem exists_copies (hp : p ∈ (Pattern.analyze v root).walk)
    (h : (r.renderAt c p).run = .ok (es, ds)) (he : e ∈ es) : ∃ record, Copies r p c record e := by
  obtain ⟨path, inner, rfl⟩ := Pattern.exists_of_mem_walk v _ root hp
  have hb (inner' : Context) (copy : Element) :=
    Pattern.only_renderBelow_analyzeAt v path inner r inner' copy
  have hpath : (Pattern.analyzeAt v path inner).shape.path = path :=
    congrArg Shape.path (Pattern.shape_analyzeAt v path inner)
  generalize Pattern.analyzeAt v path inner = p at h hb hpath ⊢
  subst hpath
  obtain ⟨s, children⟩ := p
  rw [renderAt] at h
  exact exists_copyOf hb h he

theorem shape_of_mem_walk (hp : p ∈ (Pattern.analyze v root).walk) :
    p.shape = Pattern.shapeOf v p.shape.path p.shape.element := by
  obtain ⟨path, inner, rfl⟩ := Pattern.exists_of_mem_walk v _ root hp
  rw [Pattern.shape_analyzeAt]
  rfl

/-- Rendering changes the attributes that it is for, and no others: every element of the output has
the tag of its template and, of all other attributes, the same ones with the same values. -/
theorem attributes_kept (hp : p ∈ (Pattern.analyze v root).walk) (hs : r.setters = .standard)
    (h : (r.renderAt c p).run = .ok (es, ds)) :
    ∀ e ∈ es, e.tag = p.shape.element.tag ∧
      ∀ x, ¬ Owns r.config.vocabulary p.shape x → e.get? x = p.shape.element.get? x := by
  intro e he
  obtain ⟨record, hcopy⟩ := exists_copies hp h he
  exact hcopy.begunFor.kept hs (congrArg Shape.placeholders (shape_of_mem_walk hp))

end

def box : Element :=
  .mk (.named "input") [("type", "checkbox"), ("itemprop", "tasks[]"), ("itemscope", ""),
    ("title", "$\x7bname\x7d"), ("class", "wide")] "" []

def day : Value :=
  .record [(.text "tasks", .list
    [.record [(.text "@id", .text "t1"), (.text "name", .text "Tea")]])]

def ticked : List (String × String) :=
  [("type", "checkbox"), ("itemprop", "tasks"), ("itemscope", ""), ("title", "Tea"),
    ("class", "wide"), ("checked", "checked"), ("itemid", "#t1")]

theorem renderAt_box : ∃ e, (({} : Renderer).renderAt (.ofRoot day [day] "")
    (Pattern.analyze {} box)).run = .ok ([e], []) ∧ e.attributes = ticked := by
  have hresult : (({} : Renderer).renderAt (.ofRoot day [day] "")
      (Pattern.analyze {} box)).run.toOption.map (fun (es, ds) =>
        (es.map Element.attributes, ds.length)) = some ([ticked], 0) := by decide +kernel
  obtain ⟨⟨es, ds⟩, hrun, hresult⟩ := exists_of_toOption_map hresult
  obtain ⟨hattributes, hds⟩ := Prod.mk.inj hresult
  obtain ⟨e, rfl, he⟩ := List.map_eq_singleton_iff.mp hattributes
  obtain rfl := List.eq_nil_of_length_eq_zero hds
  exact ⟨e, hrun, he⟩

theorem attributes_kept_ticked :
    Pattern.analyze {} box ∈ (Pattern.analyze {} box).walk ∧
      ({} : Renderer).setters = .standard ∧
      ∃ e, (({} : Renderer).renderAt (.ofRoot day [day] "") (Pattern.analyze {} box)).run =
          .ok ([e], []) ∧
        e.attributes = ticked ∧ e.tag = box.tag ∧
        ∀ x, ¬ Owns {} (Pattern.analyze {} box).shape x → e.get? x = box.get? x := by
  have hp : Pattern.analyze {} box ∈ (Pattern.analyze {} box).walk := List.mem_cons_self ..
  obtain ⟨e, hrun, he⟩ := renderAt_box
  obtain ⟨htag, hkept⟩ := attributes_kept (r := {}) hp rfl hrun e (List.mem_singleton_self e)
  exact ⟨hp, rfl, e, hrun, he, htag, hkept⟩

end Renderer
end Microdata
