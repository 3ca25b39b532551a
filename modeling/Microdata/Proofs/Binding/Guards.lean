import Microdata.Proofs.Binding.Simulation
set_option autoImplicit false

namespace Microdata

/-- No diagnostic says that a record was not entered. -/
def Unguarded (ds : List Diagnostic) : Prop := ∀ d ∈ ds, d.isGuard = false

theorem not_unguarded_of_isGuard {d : Diagnostic} (h : d.isGuard = true) : ¬Unguarded [d] := by
  intro hd
  have hfree := hd d (List.mem_singleton_self d)
  rw [h] at hfree
  cases hfree

def Comparison.unguarded : Comparison where
  Rel R x y := ∀ a ds, x.run = .ok (a, ds) → Unguarded ds → ∃ b, y.run = .ok (b, ds) ∧ R a b
  ok := (silent Diagnostic.isGuard).ok
  bind := (silent Diagnostic.isGuard).bind

/-- Two places in a rendering, of which the second has entered fewer records. -/
structure Context.Looser (c d : Context) : Prop where
  current : d.current = c.current
  batch : d.batch = c.batch
  base : d.base = c.base
  depth : d.depth ≤ c.depth
  ancestors : d.ancestors ⊆ c.ancestors

namespace Context

variable {c d : Context} {v : Value}

theorem Looser.descend (h : c.Looser d) (v : Value) (linked : Bool) :
    (c.descend v linked).Looser (d.descend v linked) where
  current := rfl
  batch := h.batch
  base := h.base
  depth := Nat.add_le_add_right h.depth 1
  ancestors := by
    cases linked with
    | false => exact h.ancestors
    | true =>
      intro id hid
      obtain hid | hid := mem_withAncestor.mp hid
      · exact mem_withAncestor.mpr (.inl (h.ancestors hid))
      · exact mem_withAncestor.mpr (.inr hid)

theorem Looser.isCycle (h : c.Looser d) (hv : c.isCycle v = false) : d.isCycle v = false := by
  rw [isCycle_eq_false_iff] at hv ⊢
  exact fun id hid hmem => hv id hid (h.ancestors hmem)

end Context

namespace Renderer

def withLimit (r : Renderer) (limit : Nat) : Renderer :=
  { r with config := { r.config with maxDepth := limit } }

theorem coupled_of_looser (r : Renderer) (limit : Nat) (kind : Diagnostic → Bool) (s : Shape)
    {Beside : Context → Context → Prop} (hlooser : ∀ c d, Beside c d → c.Looser d)
    (henter : ∀ c d v linked, Beside c d → Way r s c v linked →
      (Comparison.silent kind).Rel (Option.Rel Beside) (r.enter s c v linked)
        ((r.withLimit limit).enter s d v linked)) :
    Coupled (.silent kind) r (r.withLimit limit) Beside s where
  marker := rfl
  vocabulary := rfl
  report _ := Comparison.silent_refl kind _
  current hcd := (hlooser _ _ hcd).current
  filtered hcd _ _ _ := by rw [(hlooser _ _ hcd).batch]
  pointed := by
    intro c d hcd property _ id _
    rw [(hlooser c d hcd).batch]
    exact Comparison.silent_refl kind _
  resolved hcd _ := by rw [(hlooser _ _ hcd).batch]
  start _ _ _ := Comparison.silent_refl kind _
  write _ _ _ _ := Comparison.silent_refl kind _
  mark := by
    intro c d hcd v _ e
    have he : (r.withLimit limit).markIdentity s d v e = r.markIdentity s c v e := by
      simp only [markIdentity, (hlooser c d hcd).base, withLimit]
    rw [he]
    exact Comparison.silent_refl kind _
  judge := by
    intro c d hcd v _
    rw [(hlooser c d hcd).batch]
    exact Comparison.silent_refl kind _
  enter := by
    intro c d hcd v linked way
    exact henter c d v linked hcd way

/-- Where a guard has not refused a record, it does not if it has less reason to. -/
theorem coupled_withLimit (r : Renderer) {limit : Nat} (h : r.config.maxDepth ≤ limit)
    (s : Shape) : Coupled .unguarded r (r.withLimit limit) Context.Looser s := by
  refine r.coupled_of_looser limit Diagnostic.isGuard s (fun _ _ hcd => hcd) ?_
  intro c d v linked hcd _ entered ds he hds
  obtain ⟨hid, hallowed⟩ := run_enter_eq_ok.mp he
  obtain ⟨hcycle, hdepth, hc⟩ | ⟨guard, hguard, hc⟩ := r.allow_cases s c v linked
  · rw [hc] at hallowed
    obtain ⟨rfl, rfl⟩ := Reported.run_ok_eq_ok.mp hallowed
    have hroom : d.depth < limit := Nat.lt_of_le_of_lt hcd.depth (Nat.lt_of_lt_of_le hdepth h)
    have hd := allow_eq_some (r := r.withLimit limit) s
      (fun hl => hcd.isCycle (hcycle hl)) hroom
    exact ⟨_, run_enter_eq_ok.mpr ⟨hid, congrArg Reported.run hd⟩, .some (hcd.descend v linked)⟩
  · rw [hc] at hallowed
    cases hallowed
    exact absurd hds (not_unguarded_of_isGuard hguard)

/-- The guards do nothing but refuse: a rendering in which none has spoken is the same where they
have less reason to. -/
theorem render_relaxed (r : Renderer) (p : Pattern) (record : Value) (ctx : Context)
    {es : List Element} {ds : List Diagnostic} (h : (r.render p record ctx).run = .ok (es, ds))
    (hds : Unguarded ds) {limit depth : Nat} {ancestors : List String}
    (hlimit : r.config.maxDepth ≤ limit) (hdepth : depth ≤ ctx.depth)
    (hancestors : ancestors ⊆ ctx.ancestors) :
    ((r.withLimit limit).render p record
      { ctx with depth := depth, ancestors := ancestors }).run = .ok (es, ds) := by
  have hlooser : Context.Looser { ctx with current := record }
      { ctx with current := record, depth := depth, ancestors := ancestors } :=
    { current := rfl
      batch := rfl
      base := rfl
      depth := hdepth
      ancestors := hancestors }
  have hrel := rel_renderAt p (fun q _ => r.coupled_withLimit hlimit q.shape) hlooser
  obtain ⟨es', hrun, rfl⟩ := hrel es ds h hds
  exact hrun

def team : Element :=
  .mk (.named "div") [] ""
    [(.mk (.named "p") [("itemprop", "lead"), ("itemscope", "")] ""
        [(.mk (.named "b") [("itemprop", "name")] "" [], "")], " and "),
      (.mk (.named "p") [("itemprop", "deputy"), ("itemscope", "")] "" [], "")]

def staff : Value := .record [(.text "lead", .text "#ann"), (.text "deputy", .text "#bob")]

def lead : Value := .record [(.text "@id", .text "ann"), (.text "name", .text "Ann")]

def narrow : Context where
  root := staff
  current := staff
  batch := [staff, lead]
  depth := 2
  ancestors := ["zoe"]

def shownTeam : Element :=
  .mk (.named "div") [] ""
    [(.mk (.named "p") [("itemprop", "lead"), ("itemscope", ""), ("itemid", "#ann")] ""
        [(.mk (.named "b") [("itemprop", "name")] "Ann" [], "")], " and "),
      (.mk (.named "p") [("itemprop", "deputy"), ("itemscope", "")] "" [], "")]

def shallow : Renderer := { config := { maxDepth := 3 } }

def unknownDeputy : Diagnostic :=
  .dangling (.text "#bob") "deputy" (Pattern.childPath "div" "p" 2) "scope"

theorem render_relaxed_team :
    (shallow.render (Pattern.analyze {} team) staff narrow).run =
        .ok ([shownTeam], [unknownDeputy]) ∧
      Unguarded [unknownDeputy] ∧ shallow.config.maxDepth ≤ 8 ∧ 0 ≤ narrow.depth ∧
      [] ⊆ narrow.ancestors ∧
      ((shallow.withLimit 8).render (Pattern.analyze {} team) staff
        { narrow with depth := 0, ancestors := [] }).run = .ok ([shownTeam], [unknownDeputy]) := by
  have h : (shallow.render (Pattern.analyze {} team) staff narrow).run =
      .ok ([shownTeam], [unknownDeputy]) := rfl
  have hds : Unguarded [unknownDeputy] := by
    intro d hd
    obtain rfl := List.mem_singleton.mp hd
    rfl
  have hlimit : shallow.config.maxDepth ≤ 8 := by decide
  have hdepth : 0 ≤ narrow.depth := by decide
  have hancestors : [] ⊆ narrow.ancestors := List.nil_subset _
  have hrelaxed := render_relaxed shallow (Pattern.analyze {} team) staff narrow h hds hlimit
    hdepth hancestors
  exact ⟨h, hds, hlimit, hdepth, hancestors, hrelaxed⟩

end Renderer
end Microdata
