import Microdata.Proofs.Binding.Blindness
import Microdata.Proofs.Binding.Guards
import Microdata.Proofs.Binding.Links
set_option autoImplicit false

/-!
References against the records that they mean. A record that is entered by a link leaves its
identifier behind, and one that stands in its place does not; nothing else tells them apart. Main
statement: `renderAt_inlined`, where no record is refused because it is being rendered already, a
reference is rendered like the record that it means, put in its place.
-/

namespace Microdata

/-- Whether a diagnostic says that a record was not entered because it is being rendered. -/
def Diagnostic.isCyclic (d : Diagnostic) : Bool := d.code == "BIND007"

theorem Diagnostic.isCyclic_promote (strict : Bool) (v : Value) (path : String) :
    ((cyclic v path).promote strict).isCyclic = true := by
  unfold promote isCyclic
  split <;> rfl

theorem Marker.isReference_record (m : Marker) (fields : Fields) :
    m.isReference (.record fields) = false := rfl

theorem Fields.agreesOff_put (name : String) (v : Value) (fields : Fields) :
    Fields.AgreesOff name fields (fields.put name v) := by
  intro x hx
  rw [get?_put, if_neg (Ne.symm hx)]

/-- A shape that shows the record that one property holds or refers to, and nothing else of what
that property holds. -/
structure Shape.Shows (s : Shape) (property : String) : Prop where
  isScope : s.isScope = true
  bound : s.property = some property
  single : s.isArray = false
  unfiltered : s.filter = none
  unconstrained : s.constraint = none
  unnamed : ∀ t ∈ s.placeholders, property ∉ Placeholder.names t.2.toList

/-- Two places as deep as each other, of which the second has fewer ancestors. -/
structure Context.Freer (c d : Context) : Prop extends Context.Looser c d where
  level : d.depth = c.depth

namespace Context

variable {c d : Context}

theorem Freer.descend (h : c.Freer d) (v : Value) (linked : Bool) :
    (c.descend v linked).Freer (d.descend v linked) where
  toLooser := h.toLooser.descend v linked
  level := congrArg (· + 1) h.level

theorem freer_unlinked (c : Context) (current v : Value) :
    (c.descend v true).Freer ({ c with current := current }.descend v false) where
  current := rfl
  batch := rfl
  base := rfl
  depth := Nat.le_refl _
  ancestors := fun _ hid => mem_withAncestor.mpr (.inl hid)
  level := rfl

end Context

namespace Renderer

variable (r : Renderer) (s : Shape) {c d : Context}

theorem enter_silent {v : Value} {linked linked' : Bool} {Beside : Context → Context → Prop}
    (hlevel : d.depth = c.depth) (hlink : linked' = true → linked = true)
    (hcycle : (linked && c.isCycle v) = false → (linked' && d.isCycle v) = false)
    (hinner : Beside (c.descend v linked) (d.descend v linked')) :
    (Comparison.silent Diagnostic.isCyclic).Rel (Option.Rel Beside) (r.enter s c v linked)
      (r.enter s d v linked') := by
  intro entered ds he hds
  obtain ⟨hid, hallowed⟩ := run_enter_eq_ok.mp he
  suffices h : (Comparison.silent Diagnostic.isCyclic).Rel (Option.Rel Beside)
      (r.allow s c v linked) (r.allow s d v linked') by
    obtain ⟨entered', hrun, hrel⟩ := h entered ds hallowed hds
    exact ⟨entered', run_enter_eq_ok.mpr ⟨fun hl => hid (hlink hl), hrun⟩, hrel⟩
  cases hc : linked && c.isCycle v with
  | true =>
    intro entered ds he hds
    rw [allow, if_pos hc] at he
    obtain ⟨_, first, more, hreport, -, rfl⟩ := Reported.run_bind_eq_ok.mp he
    cases hreport
    have hfree := hds _ (List.mem_append_left _ (List.mem_singleton_self _))
    rw [Diagnostic.isCyclic_promote] at hfree
    cases hfree
  | false =>
    have hd := hcycle hc
    simp only [allow, hc, hd, Bool.false_eq_true, if_false, hlevel]
    split
    · exact Comparison.bind _ (Comparison.silent_refl _ _) fun _ _ _ _ _ =>
        Comparison.ok _ .none
    · exact Comparison.ok _ (.some hinner)

theorem coupled_freer : Coupled (.silent Diagnostic.isCyclic) r r Context.Freer s := by
  refine r.coupled_of_looser r.config.maxDepth Diagnostic.isCyclic s
    (fun _ _ hcd => hcd.toLooser) ?_
  intro c d v linked hcd _
  refine r.enter_silent s hcd.level id (fun hc => ?_) (hcd.descend v linked)
  cases linked with
  | false => rfl
  | true => exact hcd.toLooser.isCycle hc

variable {r s} {property : String}

theorem renderShape_shows (h : s.Shows property) (isLeaf : Bool) (below : Below) (c : Context) :
    r.renderShape s isLeaf below c =
      (r.start s c.current >>= r.renderScope s below c property) >>= fun e => .ok [e] := by
  simp only [renderShape, h.unfiltered, judge, h.unconstrained, Reported.ok_bind, Verdict.ofBool,
    if_true, renderBound, h.single, renderSingle, h.bound, h.isScope]

theorem renderScope_link {v : Value} (hv : valueOf c.current property = v)
    (hlink : r.config.marker.isReference v = true) {target : Fields}
    (htarget : r.config.marker.resolve? v c.batch = some target) (below : Below) (e : Element) :
    r.renderScope s below c property e =
      r.renderNested s below c property v true (.record target) e := by
  rw [renderScope, hv]
  cases v with
  | text t => simp only [hlink, if_true, htarget, Option.map_some, Option.getD_some]
  | _ => cases hlink

theorem renderScope_record {fields : Fields} (hv : valueOf c.current property = .record fields)
    (below : Below) (e : Element) :
    r.renderScope s below c property e =
      r.renderNested s below c property (.record fields) false (.record fields) e := by
  have hplain := r.config.marker.isReference_record fields
  simp only [renderScope, hv, hplain, Bool.false_eq_true, if_false]

theorem rel_renderScope_inlined {fields target : Fields} {v : Value} {below : Below}
    (hcurrent : c.current = .record fields) (hv : fields.get? property = some v)
    (htarget : r.config.marker.resolve? v c.batch = some target)
    (hb : ∀ c d e, Context.Freer c d →
      (Comparison.silent Diagnostic.isCyclic).Rel Eq (below c e) (below d e)) (e : Element) :
    (Comparison.silent Diagnostic.isCyclic).Rel Eq (r.renderScope s below c property e)
      (r.renderScope s below
        { c with current := .record (fields.put property (.record target)) } property e) := by
  have hvalue : valueOf c.current property = v := by
    simp only [valueOf, hcurrent, Value.get?, Value.fields, hv, Option.getD_some]
  have hinlined : valueOf (.record (fields.put property (.record target))) property =
      .record target := by
    simp only [valueOf, Value.get?, Value.fields, Fields.get?_put, if_true, Option.getD_some]
  rw [renderScope_link hvalue (Marker.isReference_of_resolve? htarget) htarget,
    renderScope_record hinlined]
  unfold renderNested
  refine Comparison.bind _ (r.enter_silent s rfl (fun h => absurd h Bool.false_ne_true)
    (fun _ => rfl) (c.freer_unlinked _ (.record target))) ?_
  rintro x y _ - hxy
  cases hxy with
  | none => exact Comparison.ok _ rfl
  | some hinner =>
    refine Comparison.bind _ (hb _ _ e hinner) ?_
    rintro filled _ _ - rfl
    exact Comparison.silent_refl _ _

/-- A reference is rendered like the record that it means: if no record is refused because it is
being rendered already, the record put in the place of the reference gives the same elements and
the same diagnostics. -/
theorem renderAt_inlined (r : Renderer) (p : Pattern) (c : Context) {property : String}
    (hp : p.shape.Shows property) {fields target : Fields} {v : Value}
    (hcurrent : c.current = .record fields) (hv : fields.get? property = some v)
    (htarget : r.config.marker.resolve? v c.batch = some target) {es : List Element}
    {ds : List Diagnostic} (h : (renderAt r c p).run = .ok (es, ds))
    (hds : ∀ d ∈ ds, d.code ≠ "BIND007") :
    (renderAt r { c with current := .record (fields.put property (.record target)) } p).run =
      .ok (es, ds) := by
  match p, hp, h with
  | .mk s children, hp, h =>
    have hp : s.Shows property := hp
    have hagree : Value.AgreesOff property c.current
        (.record (fields.put property (.record target))) :=
      hcurrent ▸ .record (Fields.agreesOff_put property _ fields)
    have hstart : r.start s (.record (fields.put property (.record target))) =
        r.start s c.current := by
      rw [start, ← fillAttributes_eq hagree s.placeholders hp.unnamed]
      rfl
    have hbelow (c d : Context) (e : Element) (hcd : c.Freer d) :
        (Comparison.silent Diagnostic.isCyclic).Rel Eq (renderBelow r c e children)
          (renderBelow r d e children) :=
      rel_renderBelow children (fun q _ => r.coupled_freer q.shape) hcd e
    have hrel : (Comparison.silent Diagnostic.isCyclic).Rel Eq (renderAt r c (.mk s children))
        (renderAt r { c with current := .record (fields.put property (.record target)) }
          (.mk s children)) := by
      rw [renderAt, renderAt, renderShape_shows hp, renderShape_shows hp, hstart]
      refine Comparison.bind (R := Eq) _ (Comparison.bind _ (Comparison.silent_refl _ _) ?_) ?_
      · rintro started _ _ - rfl
        exact rel_renderScope_inlined hcurrent hv htarget hbelow started
      · rintro e _ _ - rfl
        exact Comparison.ok _ rfl
    have hsilent : ∀ d ∈ ds, d.isCyclic = false := fun d hd => beq_eq_false_iff_ne.mpr (hds d hd)
    obtain ⟨_, hrun, rfl⟩ := hrel es ds h hsilent
    exact hrun

def byline : Element :=
  .mk (.named "p") [("itemprop", "author"), ("itemscope", "")] "By "
    [(.mk (.named "b") [("itemprop", "name")] "" [], ", taught by "),
      (.mk (.named "i") [("itemprop", "mentor"), ("itemscope", "")] ""
        [(.mk (.named "b") [("itemprop", "name")] "" [], "")], "")]

def mentor : Fields := [(.text "@id", .text "7"), (.text "name", .text "Zoe")]

def author : Fields :=
  [(.text "@id", .text "ann"), (.text "name", .text "Ann"), (.text "mentor", .record mentor)]

def article : Fields := [(.text "name", .text "Notes"), (.text "author", .text "#ann")]

def page : Context where
  root := .record article
  current := .record article
  batch := [.record article, .record author]
  depth := 1
  ancestors := ["zoe"]

def shownByline : Element :=
  .mk (.named "p")
    [("itemprop", "author"), ("itemscope", ""), ("itemid", "#ann")] "By "
    [(.mk (.named "b") [("itemprop", "name")] "Ann" [], ", taught by "),
      (.mk (.named "i") [("itemprop", "mentor"), ("itemscope", ""), ("itemid", "#7")] ""
        [(.mk (.named "b") [("itemprop", "name")] "Zoe" [], "")], "")]

theorem renderAt_inlined_byline :
    (Pattern.analyze {} byline).shape.Shows "author" ∧
      Marker.standard.resolve? (.text "#ann") page.batch = some author ∧
      (renderAt {} page (Pattern.analyze {} byline)).run = .ok ([shownByline], []) ∧
      (renderAt {} { page with current := .record (article.put "author" (.record author)) }
        (Pattern.analyze {} byline)).run = .ok ([shownByline], []) := by
  have hp : (Pattern.analyze {} byline).shape.Shows "author" :=
    { isScope := rfl
      bound := rfl
      single := rfl
      unfiltered := rfl
      unconstrained := rfl
      unnamed := by decide +kernel }
  have htarget : Marker.standard.resolve? (.text "#ann") page.batch = some author := rfl
  have h : (renderAt {} page (Pattern.analyze {} byline)).run = .ok ([shownByline], []) := rfl
  have hds : ∀ d ∈ ([] : List Diagnostic), d.code ≠ "BIND007" := nofun
  exact ⟨hp, htarget, h, renderAt_inlined {} _ page hp rfl rfl htarget h hds⟩

end Renderer
end Microdata
