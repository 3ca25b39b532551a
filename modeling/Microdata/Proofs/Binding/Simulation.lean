import Microdata.Binding.Render
import Microdata.Proofs.Binding.Agreement
set_option autoImplicit false

/-!
Two runs of the renderer beside each other. A `Comparison` relates two computations by their results
and is kept as they go on. Main statement: `rel_renderAt`, two renderers whose steps are related in
contexts that stand beside each other are related on every pattern. `Way` lists the ways in which a
pattern enters a record.
-/

namespace Microdata

/-- Relates computations, given what relates their results. What follows on a result may use that
it was reached. -/
structure Comparison where
  Rel {α β : Type} : (α → β → Prop) → Reported α → Reported β → Prop
  ok {α β : Type} {R : α → β → Prop} {a : α} {b : β} (h : R a b) : Rel R (.ok a) (.ok b)
  bind {α β γ δ : Type} {R : α → β → Prop} {S : γ → δ → Prop} {x : Reported α} {y : Reported β}
    {f : α → Reported γ} {g : β → Reported δ} (h : Rel R x y)
    (hfg : ∀ a b ds, x.run = .ok (a, ds) → R a b → Rel S (f a) (g b)) :
    Rel S (x >>= f) (y >>= g)

def Comparison.agree : Comparison where
  Rel := Reported.Agree
  ok h := .result [] h
  bind h hfg := h.bind hfg

/-- What the first computation gives if it reports nothing of a kind, the second gives too. -/
def Comparison.silent (kind : Diagnostic → Bool) : Comparison where
  Rel R x y := ∀ a ds, x.run = .ok (a, ds) → (∀ d ∈ ds, kind d = false) →
    ∃ b, y.run = .ok (b, ds) ∧ R a b
  ok := by
    intro _ _ _ a b h a' ds ha _
    obtain ⟨rfl, rfl⟩ := Reported.run_ok_eq_ok.mp ha
    exact ⟨b, rfl, h⟩
  bind := by
    intro _ _ _ _ _ _ x y f g hxy hfg e ds he hds
    obtain ⟨a, first, more, hx, hf, rfl⟩ := Reported.run_bind_eq_ok.mp he
    obtain ⟨hfirst, hmore⟩ := List.forall_mem_append.mp hds
    obtain ⟨b, hy, hab⟩ := hxy a first hx hfirst
    obtain ⟨e', hg, hee⟩ := hfg a b first hx hab e more hf hmore
    exact ⟨e', Reported.run_bind_eq_ok.mpr ⟨b, first, more, hy, hg, rfl⟩, hee⟩

theorem Comparison.silent_refl (kind : Diagnostic → Bool) {α : Type} (x : Reported α) :
    (silent kind).Rel Eq x x :=
  fun a _ h _ => ⟨a, h, rfl⟩

theorem Comparison.filterMap (C : Comparison) {α β : Type} {f g : α → Reported (Option β)}
    (l : List α) (h : ∀ a ∈ l, C.Rel Eq (f a) (g a)) :
    C.Rel Eq (Reported.filterMap f l) (Reported.filterMap g l) := by
  induction l with
  | nil => exact C.ok rfl
  | cons a l ih =>
    have hl := ih fun b hb => h b (List.mem_cons_of_mem _ hb)
    refine C.bind (h a (List.mem_cons_self ..)) ?_
    rintro b _ _ - rfl
    refine C.bind hl ?_
    rintro bs _ _ - rfl
    exact C.ok rfl

namespace Renderer

/-- The ways in which a pattern enters a record, and whether that is by a link. -/
inductive Way (r : Renderer) (s : Shape) (c : Context) : Value → Bool → Prop
  | found {property : String} {record : Value} {verdict : Verdict} {ds : List Diagnostic}
    (filter : s.filter = some property)
    (mem : record ∈ c.batch.filter
      (r.config.marker.pointsAt property (valueOf c.current idKey)))
    (judged : (r.judge s record c.batch).run = .ok (verdict, ds)) (passed : verdict.passed) :
    Way r s c ((verdict.resolved.map Value.record).getD record) true
  | requested {fields : Fields} {verdict : Verdict} {ds : List Diagnostic}
    (filter : s.filter = none)
    (judged : (r.judge s c.current c.batch).run = .ok (verdict, ds)) (passed : verdict.passed)
    (resolved : verdict.resolved = some fields) : Way r s c (.record fields) true
  | item {property : String} {items : List Value} {item : Value} (isArray : s.isArray)
    (bound : s.property = some property)
    (held : valueOf c.current property = .list items ∨ valueOf c.current property = .tuple items)
    (mem : item ∈ items) (isRecord : item.isRecord) : Way r s c item false
  | nested {property : String} {fields : Fields} (isScope : s.isScope)
    (bound : s.property = some property)
    (held : valueOf c.current property = .record fields) : Way r s c (.record fields) false
  | referred {property : String} {fields : Fields} (isScope : s.isScope)
    (bound : s.property = some property)
    (resolved : r.config.marker.resolve? (valueOf c.current property) c.batch = some fields) :
    Way r s c (.record fields) true

/-- The values that a pattern may come to in a context: the record at hand, the batch, and what
they hold. -/
inductive Holds (c : Context) : Value → Prop
  | current : Holds c c.current
  | batch {v : Value} (mem : v ∈ c.batch) : Holds c v
  | value {v : Value} (property : String) (h : Holds c v) : Holds c (valueOf v property)
  | item {items : List Value} {v : Value} (h : Holds c (.list items)) (mem : v ∈ items) : Holds c v
  | part {items : List Value} {v : Value} (h : Holds c (.tuple items)) (mem : v ∈ items) :
    Holds c v

end Renderer

theorem Marker.record_mem_of_resolve? {m : Marker} {v : Value} {batch : List Value}
    {fields : Fields} (h : m.resolve? v batch = some fields) : .record fields ∈ batch := by
  unfold resolve? at h
  split at h
  · cases h
  · rename_i id _
    obtain ⟨w, hw, rfl⟩ := Option.map_eq_some_iff.mp h
    have hid := List.find?_some hw
    have hmem := List.mem_of_find?_eq_some hw
    cases w with
    | record fields => exact hmem
    | _ => cases hid

theorem record_mem_of_evaluate {m : Marker} {source path : String} {v : Value} {batch : List Value}
    {strict : Bool} {verdict : Verdict} {ds : List Diagnostic} {fields : Fields}
    (h : evaluate m source v batch path strict = .ok (verdict, ds))
    (hv : verdict.resolved = some fields) : .record fields ∈ batch := by
  obtain ⟨rfl, -⟩ | ⟨hnone, -⟩ | ⟨e, p, w, r, -, -, -, hr, rfl, -⟩ := evaluate_cases h
  · cases hv
  · rw [hnone] at hv
    cases hv
  · cases hv
    exact m.record_mem_of_resolve? hr

def Diagnostic.isGuard (d : Diagnostic) : Bool := d.code == "BIND006" || d.code == "BIND007"

theorem Diagnostic.isGuard_promote (strict : Bool) (d : Diagnostic) :
    (d.promote strict).isGuard = d.isGuard := by
  unfold promote isGuard
  split <;> rfl

namespace Renderer

variable {r r' : Renderer} {s : Shape} {c d : Context} {v : Value}

theorem run_enter_eq_ok {linked : Bool} {x : Option Context} {ds : List Diagnostic} :
    (r.enter s c v linked).run = .ok (x, ds) ↔
      (linked = true → v.checkIdentifier = .ok ()) ∧ (r.allow s c v linked).run = .ok (x, ds) := by
  rw [enter, Reported.run_lift_bind_eq_ok]
  constructor
  · rintro ⟨⟨⟩, hid, hrun⟩
    exact ⟨fun hl => by rwa [if_pos hl] at hid, hrun⟩
  · rintro ⟨hid, hrun⟩
    refine ⟨(), ?_, hrun⟩
    split
    · rename_i hl
      exact hid hl
    · rfl

theorem allow_eq_some {linked : Bool} (s : Shape) (hcycle : linked = true → c.isCycle v = false)
    (hdepth : c.depth < r.config.maxDepth) :
    r.allow s c v linked = .ok (some (c.descend v linked)) := by
  have hfree : (linked && c.isCycle v) = false := by
    cases linked with
    | false => rfl
    | true => exact hcycle rfl
  rw [allow, if_neg (by simp [hfree]), if_neg (Nat.not_le_of_lt hdepth)]

theorem allow_cases (r : Renderer) (s : Shape) (c : Context) (v : Value) (linked : Bool) :
    ((linked = true → c.isCycle v = false) ∧ c.depth < r.config.maxDepth ∧
        r.allow s c v linked = .ok (some (c.descend v linked))) ∨
      ∃ d : Diagnostic, d.isGuard = true ∧ r.allow s c v linked = ⟨.ok none, [d]⟩ := by
  by_cases hcycle : (linked && c.isCycle v) = true
  · refine .inr ⟨_, Diagnostic.isGuard_promote r.config.strict (.cyclic v s.path), ?_⟩
    rw [allow, if_pos hcycle]
    rfl
  · by_cases hdepth : r.config.maxDepth ≤ c.depth
    · refine .inr ⟨_, Diagnostic.isGuard_promote r.config.strict
        (.tooDeep r.config.maxDepth s.path), ?_⟩
      rw [allow, if_neg hcycle, if_pos hdepth]
      rfl
    · have hfree : linked = true → c.isCycle v = false := fun hl => by simpa [hl] using hcycle
      have hroom := Nat.lt_of_not_le hdepth
      exact .inl ⟨hfree, hroom, allow_eq_some s hfree hroom⟩

theorem agree_enter (r : Renderer) (s : Shape) {Beside : Context → Context → Prop} {linked : Bool}
    (h : r.enter s c v linked = .ok (some (c.descend v linked)) →
      Beside (c.descend v linked) (c.descend v linked)) :
    Reported.Agree (Option.Rel Beside) (r.enter s c v linked) (r.enter s c v linked) := by
  cases hid : if linked = true then v.checkIdentifier else .ok () with
  | error f =>
    have hfault : r.enter s c v linked = ⟨.error f, []⟩ := by
      rw [enter, hid]
      rfl
    rw [hfault]
    exact .fault f []
  | ok _ =>
    have hallowed : r.enter s c v linked = r.allow s c v linked := by
      rw [enter, hid]
      rfl
    rw [hallowed] at h ⊢
    obtain ⟨-, -, hc⟩ | ⟨guard, -, hc⟩ := r.allow_cases s c v linked
    · have hbeside := h hc
      rw [hc]
      exact .result [] (.some hbeside)
    · rw [hc]
      exact .result [guard] .none

theorem record_mem_of_judge {batch : List Value} {verdict : Verdict} {ds : List Diagnostic}
    {fields : Fields} (h : (r.judge s v batch).run = .ok (verdict, ds))
    (hv : verdict.resolved = some fields) : .record fields ∈ batch := by
  unfold judge at h
  split at h
  · rw [Reported.run_ofRun] at h
    exact record_mem_of_evaluate h hv
  · obtain ⟨rfl, -⟩ := Reported.run_ok_eq_ok.mp h
    cases hv

theorem holds_taken {verdict : Verdict} {ds : List Diagnostic} (hv : Holds c v)
    (h : (r.judge s v c.batch).run = .ok (verdict, ds)) :
    Holds c ((verdict.resolved.map Value.record).getD v) := by
  cases hr : verdict.resolved with
  | none => exact hv
  | some fields => exact .batch (record_mem_of_judge h hr)

theorem holds_items {items : List Value} {property : String}
    (h : valueOf c.current property = .list items ∨ valueOf c.current property = .tuple items)
    (hv : v ∈ items) : Holds c v := by
  have hp := Holds.value property (.current (c := c))
  obtain h | h := h
  · exact .item (h ▸ hp) hv
  · exact .part (h ▸ hp) hv

theorem Way.holds {linked : Bool} (h : Way r s c v linked) : Holds c v := by
  cases h with
  | found _ mem judged => exact holds_taken (.batch (List.mem_filter.mp mem).1) judged
  | requested _ judged _ resolved => exact .batch (record_mem_of_judge judged resolved)
  | item _ _ held mem => exact holds_items held mem
  | @nested property _ _ _ held => exact held ▸ .value property .current
  | referred _ _ resolved => exact .batch (Marker.record_mem_of_resolve? resolved)

/-- Two renderers that read a shape alike, in contexts that stand beside each other: each step of
the one is related to that of the other. -/
structure Coupled (C : Comparison) (r r' : Renderer) (Beside : Context → Context → Prop)
    (s : Shape) : Prop where
  marker : r'.config.marker = r.config.marker
  vocabulary : r'.config.vocabulary = r.config.vocabulary
  report (d : Diagnostic) : C.Rel Eq (r.report d) (r'.report d)
  current {c d : Context} (h : Beside c d) : d.current = c.current
  filtered {c d : Context} (h : Beside c d) {property : String} (hf : s.filter = some property)
    (id : Value) : d.batch.filter (r.config.marker.pointsAt property id) =
      c.batch.filter (r.config.marker.pointsAt property id)
  pointed {c d : Context} (h : Beside c d) {property : String} (hf : s.filter = some property)
    {id : Value} (hid : Holds c id) :
    C.Rel Eq (Reported.lift (Marker.checkPointed property id c.batch))
      (Reported.lift (Marker.checkPointed property id d.batch))
  resolved {c d : Context} (h : Beside c d) (v : Value) :
    r.config.marker.resolve? v d.batch = r.config.marker.resolve? v c.batch
  start {c d : Context} (h : Beside c d) {v : Value} (hv : Holds c v) :
    C.Rel Eq (r.start s v) (r'.start s v)
  write {c d : Context} (h : Beside c d) {v : Value} (hv : Holds c v) (e : Element) :
    C.Rel Eq (r.write e v) (r'.write e v)
  mark {c d : Context} (h : Beside c d) {v : Value} (hv : Holds c v) (e : Element) :
    C.Rel Eq (r.markIdentity s c v e) (r'.markIdentity s d v e)
  judge {c d : Context} (h : Beside c d) {v : Value} (hv : Holds c v) :
    C.Rel Eq (r.judge s v c.batch) (r'.judge s v d.batch)
  enter {c d : Context} (h : Beside c d) {v : Value} {linked : Bool} (hv : Way r s c v linked) :
    C.Rel (Option.Rel Beside) (r.enter s c v linked) (r'.enter s d v linked)

section

variable {C : Comparison} {Beside : Context → Context → Prop} {isLeaf : Bool}
  {below below' : Below} (h : Coupled C r r' Beside s)
include h

theorem rel_writePlain (hcd : Beside c d) (hv : Holds c v) (e : Element) :
    C.Rel Eq (r.writePlain e v) (r'.writePlain e v) := by
  unfold writePlain
  split
  · exact C.ok rfl
  · exact C.ok rfl
  · exact h.write hcd hv e

theorem rel_marked (hcd : Beside c d) (hv : Holds c v) (e : Element) :
    C.Rel Eq (r.markIdentity s c v e >>= fun e => .ok (some e))
      (r'.markIdentity s d v e >>= fun e => .ok (some e)) := by
  refine C.bind (h.mark hcd hv e) ?_
  rintro e _ _ - rfl
  exact C.ok rfl

variable (hb : ∀ c d e, Beside c d → C.Rel Eq (below c e) (below' d e))
include hb

theorem rel_renderMatch (hcd : Beside c d) {property : String} (hf : s.filter = some property)
    {record : Value} (hmem : record ∈ c.batch.filter
      (r.config.marker.pointsAt property (valueOf c.current idKey))) :
    C.Rel Eq (r.renderMatch s isLeaf below c record) (r'.renderMatch s isLeaf below' d record) := by
  have hrecord := Holds.batch (List.mem_filter.mp hmem).1
  unfold renderMatch
  refine C.bind (h.judge hcd hrecord) ?_
  rintro verdict _ _ hjudge rfl
  split
  · rename_i hpassed
    have htaken := holds_taken hrecord hjudge
    refine C.bind (h.enter hcd (.found hf hmem hjudge hpassed)) ?_
    rintro x y _ - hxy
    cases hxy with
    | none => exact C.ok rfl
    | some hinner =>
      refine C.bind (h.start hcd htaken) ?_
      rintro started _ _ - rfl
      refine C.bind (hb _ _ started hinner) ?_
      rintro filled _ _ - rfl
      have hplain (p : String) := rel_writePlain h hcd (.value p htaken) filled
      dsimp only
      split
      · refine C.bind (hplain _) ?_
        rintro written _ _ - rfl
        exact rel_marked h hcd htaken written
      · refine C.bind (C.ok rfl) ?_
        rintro written _ _ - rfl
        exact rel_marked h hcd htaken written
  · exact C.ok rfl

theorem rel_renderItem (hcd : Beside c d) {property : String} (ha : s.isArray)
    (hp : s.property = some property) {items : List Value}
    (hitems : valueOf c.current property = .list items ∨ valueOf c.current property = .tuple items)
    {item : Value} (hitem : item ∈ items) :
    C.Rel Eq (r.renderItem s isLeaf below c item) (r'.renderItem s isLeaf below' d item) := by
  have hv := holds_items hitems hitem
  unfold renderItem
  split
  · rename_i hrecord
    have hrecord : item.isRecord := (Bool.and_eq_true_iff.mp hrecord).1
    refine C.bind (h.enter hcd (.item ha hp hitems hitem hrecord)) ?_
    rintro x y _ - hxy
    cases hxy with
    | none => exact C.ok rfl
    | some hinner =>
      refine C.bind (h.start hcd hv) ?_
      rintro started _ _ - rfl
      refine C.bind (hb _ _ started hinner) ?_
      rintro filled _ _ - rfl
      exact rel_marked h hcd hv filled
  · have hshown : Holds c (if item.isRecord then item else c.current) := by
      split
      · exact hv
      · exact .current
    rw [h.current hcd]
    refine C.bind (h.start hcd hshown) ?_
    rintro started _ _ - rfl
    dsimp only
    split
    · refine C.bind (C.ok rfl) ?_
      rintro copy _ _ - rfl
      exact rel_marked h hcd hv copy
    · refine C.bind (h.write hcd hv _) ?_
      rintro written _ _ - rfl
      exact rel_marked h hcd hv written

theorem rel_renderList (hcd : Beside c d) {property : String} (ha : s.isArray)
    (hp : s.property = some property) :
    C.Rel Eq (r.renderList s isLeaf below c property) (r'.renderList s isLeaf below' d property) := by
  unfold renderList
  rw [h.current hcd, h.vocabulary]
  split
  · refine C.bind (h.start hcd .current) ?_
    rintro started _ _ - rfl
    exact C.ok rfl
  · rename_i items hv
    exact C.filterMap items fun item hitem => rel_renderItem h hb hcd ha hp (.inl hv) hitem
  · rename_i items hv
    exact C.filterMap items fun item hitem => rel_renderItem h hb hcd ha hp (.inr hv) hitem
  · exact C.bind (h.report _) fun _ _ _ _ _ => C.ok rfl

theorem rel_renderNested (hcd : Beside c d) (property : String) (v nested : Value) (linked : Bool)
    (hway : ∀ fields, nested = .record fields → Way r s c nested linked) (e : Element) :
    C.Rel Eq (r.renderNested s below c property v linked nested e)
      (r'.renderNested s below' d property v linked nested e) := by
  unfold renderNested
  rw [h.vocabulary]
  split
  · exact C.bind (h.report _) fun _ _ _ _ _ => C.ok rfl
  · have hw := hway _ rfl
    refine C.bind (h.enter hcd hw) ?_
    rintro x y _ - hxy
    cases hxy with
    | none => exact C.ok rfl
    | some hinner =>
      refine C.bind (hb _ _ e hinner) ?_
      rintro filled _ _ - rfl
      exact h.mark hcd hw.holds filled
  · exact C.bind (h.report _) fun _ _ _ _ _ => C.ok rfl

theorem rel_renderScope (hcd : Beside c d) {property : String} (hs : s.isScope)
    (hp : s.property = some property) (e : Element) :
    C.Rel Eq (r.renderScope s below c property e) (r'.renderScope s below' d property e) := by
  unfold renderScope
  rw [h.current hcd, h.marker]
  split
  · exact C.ok rfl
  · rw [h.resolved hcd]
    split
    · refine rel_renderNested h hb hcd property _ _ true (fun fields hf => ?_) e
      cases hr : r.config.marker.resolve? (valueOf c.current property) c.batch with
      | none =>
        rw [hr] at hf
        cases hf
      | some found => exact .referred hs hp hr
    · refine rel_renderNested h hb hcd property _ _ false (fun fields hf => ?_) e
      exact hf ▸ .nested hs hp hf

theorem rel_renderSingle (hcd : Beside c d) :
    C.Rel Eq (r.renderSingle s below c) (r'.renderSingle s below' d) := by
  unfold renderSingle
  rw [h.current hcd]
  refine C.bind (h.start hcd .current) ?_
  rintro started _ _ - rfl
  split
  · refine C.bind (hb c d started hcd) ?_
    rintro filled _ _ - rfl
    exact h.mark hcd .current filled
  · rename_i property hp
    split
    · rename_i hs
      exact rel_renderScope h hb hcd hs hp started
    · exact rel_writePlain h hcd (.value property .current) _

theorem rel_renderBound (hcd : Beside c d) :
    C.Rel Eq (r.renderBound s isLeaf below c) (r'.renderBound s isLeaf below' d) := by
  unfold renderBound
  split
  · rename_i ha hp
    exact rel_renderList h hb hcd ha hp
  · refine C.bind (rel_renderSingle h hb hcd) ?_
    rintro e _ _ - rfl
    exact C.ok rfl

theorem rel_renderShape (hcd : Beside c d) :
    C.Rel Eq (r.renderShape s isLeaf below c) (r'.renderShape s isLeaf below' d) := by
  unfold renderShape
  rw [h.current hcd, h.marker]
  split
  · rename_i property hf
    refine C.bind (h.pointed hcd hf (.value idKey .current)) ?_
    rintro _ _ _ - -
    rw [h.filtered hcd hf]
    exact C.filterMap _ fun record hmem => rel_renderMatch h hb hcd hf hmem
  · rename_i hf
    refine C.bind (h.judge hcd .current) ?_
    rintro verdict _ _ hjudge rfl
    split
    · rename_i hpassed
      cases hr : verdict.resolved with
      | none => exact rel_renderBound h hb hcd
      | some fields =>
        refine C.bind (h.enter hcd (.requested hf hjudge hpassed hr)) ?_
        rintro x y _ - hxy
        cases hxy with
        | none => exact C.ok rfl
        | some hinner => exact rel_renderBound h hb hinner
    · exact C.ok rfl

end

mutual
theorem rel_renderAt {C : Comparison} {Beside : Context → Context → Prop} (p : Pattern)
    (h : ∀ q ∈ p.walk, Coupled C r r' Beside q.shape) {c d : Context} (hcd : Beside c d) :
    C.Rel Eq (renderAt r c p) (renderAt r' d p) := by
  match p, h with
  | .mk s children, h =>
    rw [renderAt, renderAt]
    have hs : Coupled C r r' Beside s :=
      h (.mk s children) (by rw [Pattern.walk]; exact List.mem_cons_self ..)
    refine rel_renderShape hs (fun c d e hcd => rel_renderBelow children (fun q hq => ?_) hcd e) hcd
    exact h q (by rw [Pattern.walk]; exact List.mem_cons_of_mem _ hq)

theorem rel_renderBelow {C : Comparison} {Beside : Context → Context → Prop}
    (children : List (Pattern × String))
    (h : ∀ q ∈ Pattern.walkAll children, Coupled C r r' Beside q.shape) {c d : Context}
    (hcd : Beside c d) (e : Element) :
    C.Rel Eq (renderBelow r c e children) (renderBelow r' d e children) := by
  match children, h with
  | [], _ =>
    rw [renderBelow, renderBelow]
    exact C.ok rfl
  | (p, tail) :: rest, h =>
    rw [renderBelow, renderBelow]
    simp only [Pattern.walkAll, List.mem_append] at h
    refine C.bind (rel_renderAt p (fun q hq => h q (.inl hq)) hcd) ?_
    rintro es _ _ - rfl
    exact rel_renderBelow rest (fun q hq => h q (.inr hq)) hcd _
end

end Renderer
end Microdata
