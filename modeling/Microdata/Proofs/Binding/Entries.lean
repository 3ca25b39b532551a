import Microdata.Proofs.Binding.Simulation
set_option autoImplicit false

/-!
The records that are entered on the way to a place in a rendering. `Reaches` follows a rendering
from pattern to pattern and collects what is entered. Main statement: `entries_guarded`, at every
place the depth counts the entries and keeps to the limit, and the ancestors are the identifiers of
the root and of the records entered by a link, which all differ; and a rendering depends on nothing
but the places that are reached.
-/

namespace Microdata

structure Entry where
  record : Value
  linked : Bool

/-- The identifiers of the root and of the records that are entered by a link. -/
def linkedIds (root : Value) (entries : List Entry) : List String :=
  (root :: (entries.filter Entry.linked).map Entry.record).filterMap fun v =>
    v.identifier?.map Value.display

theorem linkedIds_append (root : Value) (entries : List Entry) (e : Entry) :
    linkedIds root (entries ++ [e]) =
      linkedIds root entries ++
        if e.linked then (e.record.identifier?.map Value.display).toList else [] := by
  obtain ⟨record, linked⟩ := e
  unfold linkedIds
  rw [List.filter_append, List.map_append, ← List.cons_append, List.filterMap_append]
  congr 1
  cases linked with
  | false => rfl
  | true => cases hid : record.identifier? <;> simp [hid]

namespace Renderer

/-- The places that a rendering comes to, and the records that it enters on the way: at a pattern it
enters one after another, and its children are rendered where it stands then. -/
inductive Reaches (r : Renderer) (p₀ : Pattern) (c₀ : Context) :
    List Entry → Pattern → Context → Prop
  | start : Reaches r p₀ c₀ [] p₀ c₀
  | enter {entries : List Entry} {p : Pattern} {c inner : Context} {record : Value}
    {linked : Bool} {ds : List Diagnostic} (h : Reaches r p₀ c₀ entries p c)
    (way : Way r p.shape c record linked)
    (entered : (r.enter p.shape c record linked).run = .ok (some inner, ds)) :
    Reaches r p₀ c₀ (entries ++ [⟨record, linked⟩]) p inner
  | child {entries : List Entry} {p q : Pattern} {tail : String} {c : Context}
    (h : Reaches r p₀ c₀ entries p c) (mem : (q, tail) ∈ p.children) :
    Reaches r p₀ c₀ entries q c

end Renderer

/-- What the guards keep behind some entries. -/
structure Context.Guarded (limit : Nat) (root : Value) (entries : List Entry) (c : Context) :
    Prop where
  depth : c.depth = entries.length
  depth_le : c.depth ≤ limit
  ancestors : c.ancestors = linkedIds root entries
  nodup : c.ancestors.Nodup

namespace Context

variable {limit : Nat} {root : Value} {entries : List Entry} {c : Context} {v : Value}

theorem guarded_ofRoot (limit : Nat) (root record : Value) (batch : List Value) (base : String) :
    Guarded limit root [] { ofRoot root batch base with current := record } where
  depth := rfl
  depth_le := Nat.zero_le limit
  ancestors := by cases h : root.identifier? <;> simp [ofRoot, linkedIds, h]
  nodup := by cases h : root.identifier? <;> simp [ofRoot, h]

theorem ancestors_descend {linked : Bool} (hcycle : linked = true → c.isCycle v = false) :
    (c.descend v linked).ancestors =
      c.ancestors ++ if linked then (v.identifier?.map Value.display).toList else [] := by
  cases linked with
  | false => simp [Context.descend]
  | true =>
    cases hid : v.identifier? with
    | none => simp [Context.descend, withAncestor, hid]
    | some id =>
      have hnew := isCycle_eq_false_iff.mp (hcycle rfl) id hid
      simp [Context.descend, withAncestor, hid, hnew]

theorem Guarded.descend (h : c.Guarded limit root entries) (hdepth : c.depth < limit)
    {linked : Bool} (hcycle : linked = true → c.isCycle v = false) :
    (c.descend v linked).Guarded limit root (entries ++ [⟨v, linked⟩]) where
  depth := by simp [h.depth]
  depth_le := hdepth
  ancestors := by
    rw [linkedIds_append, ← h.ancestors, ancestors_descend hcycle]
  nodup := by
    rw [ancestors_descend hcycle]
    cases linked with
    | false => simpa using h.nodup
    | true =>
      cases hid : v.identifier? with
      | none => simpa using h.nodup
      | some id =>
        have hnew := isCycle_eq_false_iff.mp (hcycle rfl) id hid
        simpa [List.nodup_append, h.nodup] using fun a ha => ne_of_mem_of_not_mem ha hnew

end Context

namespace Renderer

def belowUsing (f : Context → Pattern → Reported (List Element)) (ctx : Context) (e : Element) :
    List (Pattern × String) → Reported Element
  | [] => .ok e
  | (p, tail) :: rest => do
    let es ← f ctx p
    belowUsing f ctx (appendAll e tail es) rest

/-- The elements that a pattern gives if those of its children come from `f`. -/
def renderUsing (r : Renderer) (f : Context → Pattern → Reported (List Element)) (ctx : Context) :
    Pattern → Reported (List Element)
  | .mk s children =>
    r.renderShape s children.isEmpty (fun inner e => belowUsing f inner e children) ctx

variable {r : Renderer} {p₀ p : Pattern} {c₀ c : Context} {entries : List Entry}

theorem guarded_of_reaches {root : Value} (h₀ : c₀.Guarded r.config.maxDepth root [])
    (h : Reaches r p₀ c₀ entries p c) : c.Guarded r.config.maxDepth root entries := by
  induction h with
  | start => exact h₀
  | @enter entries p c inner record linked ds _ _ entered ih =>
    obtain ⟨-, allowed⟩ := run_enter_eq_ok.mp entered
    obtain ⟨hcycle, hdepth, hc⟩ | ⟨guard, -, hc⟩ := r.allow_cases p.shape c record linked
    · rw [hc] at allowed
      obtain ⟨hinner, -⟩ := Reported.run_ok_eq_ok.mp allowed
      obtain rfl := Option.some.inj hinner
      exact ih.descend hdepth hcycle
    · rw [hc] at allowed
      cases allowed
  | child _ _ ih => exact ih

def Standing (r : Renderer) (p₀ : Pattern) (c₀ : Context) (p : Pattern) (c d : Context) : Prop :=
  d = c ∧ ∃ entries, Reaches r p₀ c₀ entries p c

theorem coupled_standing (r : Renderer) (p₀ : Pattern) (c₀ : Context) (p : Pattern) :
    Coupled .agree r r (Standing r p₀ c₀ p) p.shape where
  marker := rfl
  vocabulary := rfl
  report _ := .refl _
  current h := by rw [h.1]
  filtered h _ _ _ := by rw [h.1]
  pointed h _ _ _ _ := by
    rw [h.1]
    exact .refl _
  resolved h _ := by rw [h.1]
  start _ _ _ := .refl _
  write _ _ _ _ := .refl _
  mark h _ _ _ := by
    rw [h.1]
    exact .refl _
  judge h _ _ := by
    rw [h.1]
    exact .refl _
  enter := by
    rintro c d ⟨rfl, entries, h⟩ v linked way
    exact r.agree_enter p.shape fun hd => ⟨rfl, _, .enter h way (congrArg Reported.run hd)⟩

mutual
theorem eq_renderAt_of_reaches {f : Context → Pattern → Reported (List Element)}
    (hf : ∀ entries q c, Reaches r p₀ c₀ entries q c → f c q = r.renderUsing f c q)
    (p : Pattern) {entries : List Entry} {c : Context} (h : Reaches r p₀ c₀ entries p c) :
    f c p = renderAt r c p := by
  match p, h with
  | .mk s children, h =>
    rw [hf _ _ _ h, renderUsing, renderAt]
    have hs := coupled_standing r p₀ c₀ (.mk s children)
    refine Reported.Agree.eq (rel_renderShape hs ?_ ⟨rfl, _, h⟩)
    rintro c d e ⟨rfl, entries, hd⟩
    rw [belowUsing_eq_of_reaches hf children (fun q hq => ⟨entries, .child hd hq⟩)]
    exact .refl _

theorem belowUsing_eq_of_reaches {f : Context → Pattern → Reported (List Element)}
    (hf : ∀ entries q c, Reaches r p₀ c₀ entries q c → f c q = r.renderUsing f c q)
    (children : List (Pattern × String)) {c : Context}
    (h : ∀ q ∈ children, ∃ entries, Reaches r p₀ c₀ entries q.1 c) (e : Element) :
    belowUsing f c e children = renderBelow r c e children := by
  match children, h with
  | [], _ => rw [belowUsing, renderBelow]
  | (p, tail) :: rest, h =>
    obtain ⟨entries, hp⟩ := h (p, tail) (List.mem_cons_self ..)
    have hfirst := eq_renderAt_of_reaches hf p hp
    have hrest := belowUsing_eq_of_reaches hf rest
      (fun q hq => h q (List.mem_cons_of_mem _ hq))
    simp only [belowUsing, renderBelow, hfirst, hrest]
end

/-- Along every chain of entries the guards hold, and a rendering depends only on places that such
chains lead to: whatever follows the renderer there gives what the rendering gives. -/
theorem entries_guarded (r : Renderer) (p : Pattern) (root record : Value) (batch : List Value)
    (base : String) :
    (∀ entries q c,
        Reaches r p { Context.ofRoot root batch base with current := record } entries q c →
        c.depth = entries.length ∧ c.depth ≤ r.config.maxDepth ∧
          (linkedIds root entries).Nodup ∧
          ∀ id, id ∈ c.ancestors ↔ id ∈ linkedIds root entries) ∧
      ∀ f : Context → Pattern → Reported (List Element),
        (∀ entries q c,
          Reaches r p { Context.ofRoot root batch base with current := record } entries q c →
          f c q = r.renderUsing f c q) →
        f { Context.ofRoot root batch base with current := record } p =
          r.render p record (.ofRoot root batch base) := by
  refine ⟨fun entries q c h => ?_, fun f hf => ?_⟩
  · have hroot := Context.guarded_ofRoot r.config.maxDepth root record batch base
    have hc := guarded_of_reaches hroot h
    refine ⟨hc.depth, hc.depth_le, hc.ancestors ▸ hc.nodup, fun id => ?_⟩
    rw [hc.ancestors]
  · exact eq_renderAt_of_reaches hf p .start

def circle : Element :=
  .mk (.named "div") [] ""
    [(.mk (.named "p") [("itemprop", "friend"), ("itemscope", "")] ""
        [(.mk (.named "q") [("itemprop", "friend"), ("itemscope", "")] "" [], "")], "")]

def twin : Value := .record [(.text "@id", .text "ann"), (.text "friend", .text "#7")]

def host : Value := .record [(.text "@id", .text "ann"), (.text "friend", twin)]

def seventh : Value := .record [(.text "@id", .text "7"), (.text "friend", .text "#ann")]

theorem entries_guarded_circle :
    ∃ q c, Reaches {} (Pattern.analyze {} circle) (Context.ofRoot host [host, seventh] "")
        [⟨twin, false⟩, ⟨seventh, true⟩] q c ∧
      c.depth = 2 ∧ c.depth ≤ 32 ∧
      (linkedIds host [⟨twin, false⟩, ⟨seventh, true⟩]).Nodup ∧
      ∀ id, id ∈ c.ancestors ↔ id ∈ ["ann", "7"] := by
  have hstart : Reaches {} (Pattern.analyze {} circle) (Context.ofRoot host [host, seventh] "") []
    (Pattern.analyze {} circle) (Context.ofRoot host [host, seventh] "") := .start
  have hp := Reaches.child hstart (List.mem_singleton_self _)
  have htwin := Reaches.enter hp (.nested rfl rfl rfl) rfl
  have hq := Reaches.child htwin (List.mem_singleton_self _)
  have hseventh := Reaches.enter hq (.referred rfl rfl rfl) rfl
  exact ⟨_, _, hseventh, (entries_guarded {} _ host host _ "").1 _ _ _ hseventh⟩

end Renderer
end Microdata
