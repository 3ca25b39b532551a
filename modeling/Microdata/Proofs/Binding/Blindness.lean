import Microdata.Binding.Render
import Microdata.Proofs.Binding.Agreement
set_option autoImplicit false

namespace Microdata

namespace Placeholder

def names : List Char → List String
  | [] => []
  | c :: rest =>
    if c == '$' then
      match _h : read? rest with
      | some (name, after) => String.ofList name :: names after
      | none => names rest
    else names rest
termination_by cs => cs.length
decreasing_by
  · have := length_lt_of_read? _h
    simp only [List.length_cons]
    omega
  · simp
  · simp

theorem filling_congr {a b : Fields} {name : List Char}
    (h : Fields.get? (String.ofList name) a = Fields.get? (String.ofList name) b) :
    filling a name = filling b name := by
  simp only [filling, h]

section

variable {rest name after : List Char}

theorem names_some (h : read? rest = some (name, after)) :
    names ('$' :: rest) = String.ofList name :: names after := by
  rw [names, if_pos (beq_self_eq_true _)]
  split <;> rename_i h'
  · cases h.symm.trans h'
    rfl
  · cases h.symm.trans h'

theorem names_none (h : read? rest = none) : names ('$' :: rest) = names rest := by
  rw [names, if_pos (beq_self_eq_true _)]
  split <;> rename_i h'
  · cases h.symm.trans h'
  · rfl

end

theorem fill_congr {k : String} {a b : Fields} (h : Fields.AgreesOff k a b) (cs : List Char)
    (hk : k ∉ names cs) : fill a cs = fill b cs := by
  induction cs using names.induct with
  | case1 => simp only [fill]
  | case2 c rest hc name after hr ih =>
    obtain rfl := beq_iff_eq.mp hc
    rw [names_some hr] at hk
    obtain ⟨hn, ha⟩ := not_or.mp (List.mem_cons.not.mp hk)
    have hf := filling_congr (h _ (Ne.symm hn))
    rw [fill_some hr, fill_some hr, hf, ih ha]
  | case3 c rest hc hr ih =>
    obtain rfl := beq_iff_eq.mp hc
    rw [names_none hr] at hk
    rw [fill_none hr, fill_none hr, ih hk]
  | case4 c rest hc ih =>
    rw [names, if_neg hc] at hk
    rw [fill, fill, if_neg hc, if_neg hc, ih hk]

theorem substitute_congr {k : String} {v w : Value} (h : v.AgreesOff k w) {template : String}
    (hk : k ∉ names template.toList) : substitute v template = substitute w template := by
  cases h with
  | same => rfl
  | record h => simp only [substitute, fill_congr h _ hk]

end Placeholder

/-- The names that a pattern reads for one element: its property, its filter, those in its
constraint and those of its placeholders. -/
def Shape.names (s : Shape) : List String :=
  s.property.toList ++ s.filter.toList ++ s.constraint.toList.flatMap constraintNames ++
    s.placeholders.flatMap fun p => Placeholder.names p.2.toList

def Pattern.names (p : Pattern) : List String := p.walk.flatMap (·.shape.names)

theorem Pattern.not_mem_names_mk {k : String} {s : Shape} {children : List (Pattern × String)} :
    k ∉ (Pattern.mk s children).names ↔
      k ∉ s.names ∧ ∀ p ∈ children, k ∉ p.1.names := by
  simp only [names, walk, List.flatMap_cons, List.mem_append, List.mem_flatMap, mem_walkAll,
    shape, not_or, not_exists, not_and]
  constructor
  · rintro ⟨hs, h⟩
    exact ⟨hs, fun p hp q hq => h q ⟨p, hp, hq⟩⟩
  · rintro ⟨hs, h⟩
    exact ⟨hs, fun q ⟨p, hp, hq⟩ => h p hp q hq⟩

namespace Shape

variable {k : String} {s : Shape} (h : k ∉ s.names)
include h

theorem property_ne {p : String} (hp : s.property = some p) : p ≠ k := by
  rintro rfl
  exact h (by simp [names, hp])

theorem filter_ne {p : String} (hp : s.filter = some p) : p ≠ k := by
  rintro rfl
  exact h (by simp [names, hp])

theorem not_mem_constraintNames {source : String} (hs : s.constraint = some source) :
    k ∉ constraintNames source :=
  fun hk => h (by simp [names, hs, hk])

theorem not_mem_placeholder {name template : String} (ht : (name, template) ∈ s.placeholders) :
    k ∉ Placeholder.names template.toList := by
  intro hk
  refine h ?_
  simp only [names, List.mem_append, List.mem_flatMap]
  exact .inr ⟨_, ht, hk⟩

end Shape

/-- Two places in a rendering with records that agree, reached on the same way. -/
structure Context.AgreesOff (k : String) (c d : Context) : Prop where
  current : c.current.AgreesOff k d.current
  batch : List.Forall₂ (Value.AgreesOff k) c.batch d.batch
  base : c.base = d.base
  depth : c.depth = d.depth
  ancestors : c.ancestors = d.ancestors

namespace Context.AgreesOff

variable {k : String} {c d : Context} {v w : Value}

theorem descend (h : c.AgreesOff k d) (hv : v.AgreesOff k w) (hk : idKey ≠ k) (linked : Bool) :
    (c.descend v linked).AgreesOff k (d.descend w linked) where
  current := hv
  batch := h.batch
  base := h.base
  depth := congrArg (· + 1) h.depth
  ancestors := by
    have hid := hv.identifier?_eq hk
    simp only [Context.descend, withAncestor, h.ancestors, hid]

theorem isCycle_eq (h : c.AgreesOff k d) (hv : v.AgreesOff k w) (hk : idKey ≠ k) :
    c.isCycle v = d.isCycle w := by
  simp only [isCycle, hv.identifier?_eq hk, h.ancestors]

end Context.AgreesOff

namespace Renderer

variable {k : String} (r : Renderer) {s : Shape} {c d : Context} {v w : Value}

theorem valueOf_eq (h : v.AgreesOff k w) {property : String} (hp : property ≠ k) :
    valueOf v property = valueOf w property := by
  simp only [valueOf, h.get?_eq hp]

theorem fillAttributes_eq (h : v.AgreesOff k w) (templates : List (String × String))
    (hk : ∀ p ∈ templates, k ∉ Placeholder.names p.2.toList) (e : Element) :
    fillAttributes v e templates = fillAttributes w e templates := by
  induction templates generalizing e with
  | nil => rfl
  | cons p rest ih =>
    obtain ⟨name, template⟩ := p
    have ht := Placeholder.substitute_congr h (hk _ (List.mem_cons_self ..))
    have hr := ih fun q hq => hk q (List.mem_cons_of_mem _ hq)
    simp only [fillAttributes, ht, hr]

theorem start_eq (hs : k ∉ s.names) (h : v.AgreesOff k w) : r.start s v = r.start s w := by
  have hf := fillAttributes_eq h s.placeholders fun _ hp => Shape.not_mem_placeholder hs hp
  simp only [start, hf]

theorem markIdentity_eq (s : Shape) (hk : idKey ≠ k) (hc : c.AgreesOff k d) (h : v.AgreesOff k w)
    (e : Element) : r.markIdentity s c v e = r.markIdentity s d w e := by
  simp only [markIdentity, h.identifier?_eq hk, hc.base]

theorem judge_agree (hk : idKey ≠ k) (hs : k ∉ s.names) (hc : c.AgreesOff k d)
    (h : v.AgreesOff k w) :
    Reported.Agree (Verdict.AgreesOff k) (r.judge s v c.batch) (r.judge s w d.batch) := by
  unfold judge
  cases hq : s.constraint with
  | none => exact .result _ (.refl k _)
  | some source =>
    exact evaluate_agree _ (Shape.not_mem_constraintNames hs hq) hk h hc.batch _ _

theorem enter_agree (hk : idKey ≠ k) (hc : c.AgreesOff k d) (h : v.AgreesOff k w)
    (linked : Bool) :
    Reported.Agree (Option.Rel (Context.AgreesOff k)) (r.enter s c v linked)
      (r.enter s d w linked) := by
  unfold enter
  rw [h.checkIdentifier_eq hk]
  refine (Reported.Agree.refl _).bind fun _ _ _ _ _ => ?_
  simp only [allow, hc.isCycle_eq h hk, hc.depth, Diagnostic.cyclic, h.get?_eq hk]
  split
  · exact .result _ .none
  · split
    · exact .result _ .none
    · exact .result _ (.some (hc.descend h hk linked))

/-- Children that are rendered alike in places that agree. -/
def Blind (k : String) (below : Below) : Prop :=
  ∀ c d e, Context.AgreesOff k c d → below c e = below d e

variable {isLeaf : Bool} {below : Below}

theorem renderMatch_eq (hk : idKey ≠ k) (hs : k ∉ s.names) (hb : Blind k below)
    (hc : c.AgreesOff k d) (h : v.AgreesOff k w) :
    r.renderMatch s isLeaf below c v = r.renderMatch s isLeaf below d w := by
  unfold renderMatch
  refine (r.judge_agree hk hs hc h).bind_eq fun a b hab => ?_
  rw [hab.passed]
  split
  · have hr := h.getD_record hab.resolved
    refine (r.enter_agree hk hc hr true).bind_eq fun x y hxy => ?_
    cases hxy with
    | none => rfl
    | some hi =>
      have hstart := r.start_eq hs hr
      have hbelow := fun e => hb _ _ e hi
      have hmark := r.markIdentity_eq s hk hc hr
      simp only [hstart, hbelow, hmark]
      cases isLeaf with
      | false => rfl
      | true =>
        cases hp : s.property with
        | none => rfl
        | some p =>
          have hval := valueOf_eq hr (Shape.property_ne hs hp)
          simp only [hval]
  · rfl

theorem renderItem_eq (hk : idKey ≠ k) (hs : k ∉ s.names) (hb : Blind k below)
    (hc : c.AgreesOff k d) (item : Value) :
    r.renderItem s isLeaf below c item = r.renderItem s isLeaf below d item := by
  have hitem := Value.AgreesOff.same (k := k) item
  have hmark := r.markIdentity_eq s hk hc hitem
  unfold renderItem
  split
  · refine (r.enter_agree hk hc hitem false).bind_eq fun x y hxy => ?_
    cases hxy with
    | none => rfl
    | some hi =>
      have hbelow := fun e => hb _ _ e hi
      simp only [hbelow, hmark]
  · have hr : Value.AgreesOff k (if item.isRecord then item else c.current)
        (if item.isRecord then item else d.current) := by
      split
      · exact hitem
      · exact hc.current
    have hstart := r.start_eq hs hr
    simp only [hstart, hmark]

theorem renderList_eq (hk : idKey ≠ k) (hs : k ∉ s.names) (hb : Blind k below)
    (hc : c.AgreesOff k d) {property : String} (hp : property ≠ k) :
    r.renderList s isLeaf below c property = r.renderList s isLeaf below d property := by
  have hitem : r.renderItem s isLeaf below c = r.renderItem s isLeaf below d :=
    funext fun item => r.renderItem_eq hk hs hb hc item
  simp only [renderList, valueOf_eq hc.current hp, r.start_eq hs hc.current, hitem]

theorem renderNested_eq (s : Shape) (hk : idKey ≠ k) (hb : Blind k below) (hc : c.AgreesOff k d)
    (property : String) (x : Value) (linked : Bool) (h : v.AgreesOff k w) (e : Element) :
    r.renderNested s below c property x linked v e =
      r.renderNested s below d property x linked w e := by
  cases h with
  -- a value that is no record is shown or skipped, so that it has to be the same on both sides
  | same v =>
    unfold renderNested
    split
    · rfl
    · refine (r.enter_agree hk hc (.same _) _).bind_eq fun a b hab => ?_
      cases hab with
      | none => rfl
      | some hi => simp only [hb _ _ _ hi, r.markIdentity_eq s hk hc (.same _)]
    · rfl
  | record hf =>
    simp only [renderNested]
    refine (r.enter_agree hk hc (.record hf) linked).bind_eq fun a b hab => ?_
    cases hab with
    | none => rfl
    | some hi => simp only [hb _ _ _ hi, r.markIdentity_eq s hk hc (.record hf)]

theorem renderScope_eq (s : Shape) (hk : idKey ≠ k) (hb : Blind k below) (hc : c.AgreesOff k d)
    {property : String} (hp : property ≠ k) (e : Element) :
    r.renderScope s below c property e = r.renderScope s below d property e := by
  unfold renderScope
  rw [valueOf_eq hc.current hp]
  generalize valueOf d.current property = v
  split
  · rfl
  · have hlink := r.config.marker.resolve?_agree hc.batch hk v
    have hnested := Value.AgreesOff.getD_record (.same .none) hlink
    rw [r.renderNested_eq s hk hb hc property v true hnested,
      r.renderNested_eq s hk hb hc property v false (.same v)]

theorem renderSingle_eq (hk : idKey ≠ k) (hs : k ∉ s.names) (hb : Blind k below)
    (hc : c.AgreesOff k d) :
    r.renderSingle s below c = r.renderSingle s below d := by
  simp only [renderSingle, r.start_eq hs hc.current]
  cases hp : s.property with
  | none =>
    have hbelow := fun e => hb _ _ e hc
    have hmark := r.markIdentity_eq s hk hc hc.current
    simp only [hbelow, hmark]
  | some p =>
    have hne := Shape.property_ne hs hp
    have hscope := r.renderScope_eq s hk hb hc hne
    simp only [hscope, valueOf_eq hc.current hne]

theorem renderBound_eq (hk : idKey ≠ k) (hs : k ∉ s.names) (hb : Blind k below)
    (hc : c.AgreesOff k d) :
    r.renderBound s isLeaf below c = r.renderBound s isLeaf below d := by
  unfold renderBound
  rw [r.renderSingle_eq hk hs hb hc]
  cases hp : s.property with
  | none => cases s.isArray <;> rfl
  | some p =>
    have hlist : r.renderList s isLeaf below c p = r.renderList s isLeaf below d p :=
      r.renderList_eq hk hs hb hc (Shape.property_ne hs hp)
    cases s.isArray with
    | true => exact hlist
    | false => rfl

theorem renderShape_eq (hk : idKey ≠ k) (hs : k ∉ s.names) (hb : Blind k below)
    (hc : c.AgreesOff k d) :
    r.renderShape s isLeaf below c = r.renderShape s isLeaf below d := by
  unfold renderShape
  cases hf : s.filter with
  -- the filter keeps the same places of both batches, since it compares under its own name only
  | some p =>
    have hid := valueOf_eq hc.current hk
    have hmatches := List.rel_filter (R := Value.AgreesOff k)
      (p := r.config.marker.pointsAt p (valueOf c.current idKey))
      (q := r.config.marker.pointsAt p (valueOf d.current idKey))
      (fun v w hvw => by
        simp only [hid, r.config.marker.pointsAt_eq hvw (Shape.filter_ne hs hf)]) hc.batch
    have hpointed := Marker.checkPointed_eq hc.batch (Shape.filter_ne hs hf)
      (valueOf d.current idKey)
    dsimp only
    rw [hid, hpointed]
    refine congrArg (Reported.lift _ >>= fun _ => ·) ?_
    rw [hid] at hmatches
    exact Reported.filterMap_congr hmatches fun v w hvw => r.renderMatch_eq hk hs hb hc hvw
  | none =>
    refine (r.judge_agree hk hs hc hc.current).bind_eq fun a b hab => ?_
    rw [hab.passed]
    have hres := hab.resolved
    generalize a.resolved = x, b.resolved = y at hres ⊢
    split
    · cases hres with
      | none => exact r.renderBound_eq hk hs hb hc
      | some hr =>
        refine (r.enter_agree hk hc (.record hr) true).bind_eq fun x y hxy => ?_
        cases hxy with
        | none => rfl
        | some hi => exact r.renderBound_eq hk hs hb hi
    · rfl

mutual
theorem renderAt_eq (hk : idKey ≠ k) (p : Pattern) (hp : k ∉ p.names) {c d : Context}
    (hc : c.AgreesOff k d) : renderAt r c p = renderAt r d p := by
  match p, hp with
  | .mk s children, hp =>
    obtain ⟨hs, hbelow⟩ := Pattern.not_mem_names_mk.mp hp
    have hb : Blind k fun inner e => renderBelow r inner e children :=
      fun c d e hcd => renderBelow_eq hk children hbelow hcd e
    simp only [renderAt, r.renderShape_eq hk hs hb hc]

theorem renderBelow_eq (hk : idKey ≠ k) (children : List (Pattern × String))
    (hp : ∀ p ∈ children, k ∉ p.1.names) {c d : Context} (hc : c.AgreesOff k d) (e : Element) :
    renderBelow r c e children = renderBelow r d e children := by
  match children, hp with
  | [], _ => simp only [renderBelow]
  | (p, tail) :: rest, hp =>
    have hfirst := renderAt_eq hk p (hp _ (List.mem_cons_self ..)) hc
    have hrest := renderBelow_eq hk rest (fun q hq => hp q (List.mem_cons_of_mem _ hq)) hc
    simp only [renderBelow, hfirst, hrest]
end

/-- What a pattern never names cannot influence the rendering: the batches may differ in it. -/
theorem render_eq_of_agreesOff (p : Pattern) (hk : k ≠ idKey) (hp : k ∉ p.names)
    {batch batch' : List Value} (hb : List.Forall₂ (Value.AgreesOff k) batch batch') {i : Nat}
    {record record' : Value} (hi : batch[i]? = some record) (hi' : batch'[i]? = some record')
    (base : String) :
    r.render p record (.ofRoot record batch base) =
      r.render p record' (.ofRoot record' batch' base) := by
  have hr : Value.AgreesOff k record record' := by
    obtain ⟨hlt, rfl⟩ := List.getElem?_eq_some_iff.mp hi
    obtain ⟨hlt', rfl⟩ := List.getElem?_eq_some_iff.mp hi'
    exact hb.get hlt hlt'
  have hc : Context.AgreesOff k (.ofRoot record batch base) (.ofRoot record' batch' base) :=
    { current := hr
      batch := hb
      base := rfl
      depth := rfl
      ancestors := by simp only [Context.ofRoot, hr.identifier?_eq hk.symm] }
  exact r.renderAt_eq hk.symm p hp hc

def card : Element :=
  .mk (.named "div") [("data-constraint", "age > 17"), ("title", "$\x7bnick\x7d")] ""
    [(.mk (.named "p") [("data-scope", "follows"), ("itemprop", "name")] "" [], "")]

def ann (pin : String) : Value :=
  .record [(.text "@id", .text "ann"), (.text "age", .int 42), (.text "pin", .text pin)]

def bob (pin : String) : Value :=
  .record [(.text "pin", .text pin), (.text "name", .text "Bob"), (.text "follows", .text "#ann")]

theorem agreesOff_people (pin pin' : String) :
    List.Forall₂ (Value.AgreesOff "pin") [ann pin, bob pin, .none] [ann pin', bob pin', .none] := by
  refine .cons (.record ?_) (.cons (.record ?_) (.cons (.same _) .nil))
  · intro name hn
    simp [Fields.get?, hn.symm]
  · intro name hn
    simp [Fields.get?, hn.symm]

theorem render_card :
    "pin" ≠ idKey ∧ "pin" ∉ (Pattern.analyze {} card).names ∧
      List.Forall₂ (Value.AgreesOff "pin") [ann "1", bob "1", .none] [ann "2", bob "2", .none] ∧
      ({} : Renderer).render (Pattern.analyze {} card) (ann "1")
          (.ofRoot (ann "1") [ann "1", bob "1", .none] "http://example.com/") =
        ({} : Renderer).render (Pattern.analyze {} card) (ann "2")
          (.ofRoot (ann "2") [ann "2", bob "2", .none] "http://example.com/") := by
  have hk : "pin" ≠ idKey := by decide
  have hp : "pin" ∉ (Pattern.analyze {} card).names := by decide +kernel
  have hb := agreesOff_people "1" "2"
  have h := render_eq_of_agreesOff {} (Pattern.analyze {} card) hk hp hb (i := 0) rfl rfl
    "http://example.com/"
  exact ⟨hk, hp, hb, h⟩

end Renderer
end Microdata
