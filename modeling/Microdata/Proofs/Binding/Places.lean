import Microdata.Proofs.Binding.Simulation
set_option autoImplicit false

namespace Microdata

/-- All that a computation reports has a property, whether it has a result or not. -/
def Reported.Only (P : Diagnostic → Prop) {α : Type} (x : Reported α) : Prop :=
  ∀ d ∈ x.report, P d

namespace Reported

variable {α β : Type} {P Q : Diagnostic → Prop}

theorem only_ok (a : α) : Only P (ok a) := List.forall_mem_nil P

theorem only_lift (x : Except Fault α) : Only P (lift x) := List.forall_mem_nil P

theorem only_note {d : Diagnostic} (h : P d) : Only P (note d) :=
  fun _ hd => List.mem_singleton.mp hd ▸ h

theorem only_ofRun {x : Except Fault (α × List Diagnostic)}
    (h : ∀ a ds, x = .ok (a, ds) → ∀ d ∈ ds, P d) : Only P (ofRun x) := by
  cases x with
  | error e => exact List.forall_mem_nil P
  | ok r => exact h r.1 r.2 rfl

theorem Only.bind {x : Reported α} {f : α → Reported β} (hx : Only P x) (hf : ∀ a, Only P (f a)) :
    Only P (x >>= f) := by
  obtain ⟨result, ds⟩ := x
  cases result with
  | error e => exact hx
  | ok a => exact List.forall_mem_append.mpr ⟨hx, hf a⟩

theorem Only.of_run {x : Reported α} {a : α} {ds : List Diagnostic} (h : Only P x)
    (hx : x.run = .ok (a, ds)) : ∀ d ∈ ds, P d := by
  obtain rfl := run_eq_ok.mp hx
  exact h

theorem Only.filterMap {f : α → Reported (Option β)} (h : ∀ a, Only P (f a)) (l : List α) :
    Only P (Reported.filterMap f l) := by
  induction l with
  | nil => exact only_ok []
  | cons a l ih => exact (h a).bind fun _ => ih.bind fun _ => only_ok _

theorem Only.mono {x : Reported α} (h : Only P x) (hPQ : ∀ d, P d → Q d) : Only Q x :=
  fun d hd => hPQ d (h d hd)

end Reported

open Reported

@[simp] theorem Diagnostic.path_promote (strict : Bool) (d : Diagnostic) :
    (d.promote strict).path = d.path := by
  unfold promote
  split <;> rfl

/-- A constraint speaks of its own place, and refuses no record. -/
def Diagnostic.IsVerdictAt (path : String) (d : Diagnostic) : Prop :=
  d.path = path ∧ d.isGuard = false

theorem only_evaluate (m : Marker) (source : String) (v : Value) (batch : List Value)
    (path : String) (strict : Bool) :
    Only (Diagnostic.IsVerdictAt path) (.ofRun (evaluate m source v batch path strict)) := by
  refine only_ofRun fun verdict ds h d hd => ?_
  obtain ⟨-, report, hreport, rfl⟩ | ⟨-, rfl⟩ | ⟨-, -, -, -, -, -, -, -, -, rfl⟩ := evaluate_cases h
  · obtain rfl := List.mem_singleton.mp hd
    cases hreport with
    | malformed reason => exact ⟨Diagnostic.path_promote _ _, Diagnostic.isGuard_promote _ _⟩
    | dangling w p => exact ⟨Diagnostic.path_promote _ _, Diagnostic.isGuard_promote _ _⟩
  · cases hd
  · cases hd

namespace Renderer

variable {r : Renderer} {s : Shape} {P : Diagnostic → Prop}

theorem only_judge (r : Renderer) (s : Shape) (v : Value) (batch : List Value) :
    Only (Diagnostic.IsVerdictAt s.path) (r.judge s v batch) := by
  unfold judge
  split
  · exact only_evaluate _ _ _ _ _ _
  · exact only_ok _

theorem only_writePlain (r : Renderer) (e : Element) (v : Value) : Only P (r.writePlain e v) := by
  unfold writePlain
  split
  · exact only_ok e
  · exact only_ok e
  · exact only_lift _

theorem only_markIdentity (r : Renderer) (s : Shape) (c : Context) (v : Value) (e : Element) :
    Only P (r.markIdentity s c v e) := by
  unfold markIdentity
  split
  · exact (only_lift _).bind fun _ => (only_lift _).bind fun _ => only_ok _
  · exact only_ok e

section

variable (here : ∀ d : Diagnostic, d.path = s.path → P d)
include here

theorem only_report {d : Diagnostic} (h : d.path = s.path) : Only P (r.report d) :=
  only_note (here _ ((Diagnostic.path_promote _ d).trans h))

theorem only_enter (c : Context) (v : Value) (linked : Bool) : Only P (r.enter s c v linked) := by
  refine (only_lift _).bind fun _ => ?_
  unfold allow
  split
  · exact (only_report here rfl).bind fun _ => only_ok none
  · split
    · exact (only_report here rfl).bind fun _ => only_ok none
    · exact only_ok _

variable {isLeaf : Bool} {below : Below} (hb : ∀ c e, Only P (below c e))
include hb

theorem only_renderMatch (c : Context) (v : Value) :
    Only P (r.renderMatch s isLeaf below c v) := by
  refine ((only_judge r s v c.batch).mono fun d hd => here d hd.1).bind fun verdict => ?_
  split
  · refine (only_enter here c _ true).bind fun entered => ?_
    split
    · exact only_ok none
    · refine (only_lift _).bind fun e => (hb _ e).bind fun e => ?_
      split
      · exact (only_writePlain r e _).bind fun e =>
          (only_markIdentity r s c _ e).bind fun _ => only_ok _
      · exact (only_ok e).bind fun e => (only_markIdentity r s c _ e).bind fun _ => only_ok _
  · exact only_ok none

theorem only_renderItem (c : Context) (v : Value) : Only P (r.renderItem s isLeaf below c v) := by
  unfold renderItem
  split
  · refine (only_enter here c v false).bind fun entered => ?_
    split
    · exact only_ok none
    · exact (only_lift _).bind fun e => (hb _ e).bind fun e =>
        (only_markIdentity r s c v e).bind fun _ => only_ok _
  · refine (only_lift _).bind fun e => ?_
    have hmarked (e : Element) : Only P (r.markIdentity s c v e >>= fun e => .ok (some e)) :=
      (only_markIdentity r s c v e).bind fun _ => only_ok _
    dsimp only
    split
    · exact (only_ok _).bind hmarked
    · exact (only_lift _).bind hmarked

theorem only_renderList (c : Context) (property : String) :
    Only P (r.renderList s isLeaf below c property) := by
  unfold renderList
  split
  · exact (only_lift _).bind fun _ => only_ok _
  · exact .filterMap (only_renderItem here hb c) _
  · exact .filterMap (only_renderItem here hb c) _
  · exact (only_report here rfl).bind fun _ => only_ok []

theorem only_renderNested (c : Context) (property : String) (v : Value) (linked : Bool)
    (nested : Value) (e : Element) :
    Only P (r.renderNested s below c property v linked nested e) := by
  unfold renderNested
  split
  · exact (only_report here rfl).bind fun _ => only_ok _
  · refine (only_enter here c _ linked).bind fun entered => ?_
    split
    · exact only_ok _
    · exact (hb _ e).bind fun e => only_markIdentity r s c _ e
  · exact (only_report here rfl).bind fun _ => only_ok _

theorem only_renderSingle (c : Context) : Only P (r.renderSingle s below c) := by
  refine (only_lift _).bind fun e => ?_
  split
  · exact (hb c e).bind fun e => only_markIdentity r s c _ e
  · split
    · unfold renderScope
      split
      · exact only_ok _
      · split <;> exact only_renderNested here hb c _ _ _ _ e
    · exact only_writePlain r _ _

theorem only_renderBound (c : Context) : Only P (r.renderBound s isLeaf below c) := by
  unfold renderBound
  split
  · exact only_renderList here hb c _
  · exact (only_renderSingle here hb c).bind fun _ => only_ok _

theorem only_renderShape (c : Context) : Only P (r.renderShape s isLeaf below c) := by
  unfold renderShape
  split
  · exact (only_lift _).bind fun _ => .filterMap (only_renderMatch here hb c) _
  · refine ((only_judge r s _ c.batch).mono fun d hd => here d hd.1).bind fun verdict => ?_
    split
    · split
      · exact only_renderBound here hb c
      · refine (only_enter here c _ true).bind fun entered => ?_
        split
        · exact only_ok []
        · exact only_renderBound here hb _
    · exact only_ok []

end

def IsAt (ps : List Pattern) (d : Diagnostic) : Prop := ∃ p ∈ ps, d.path = p.path

mutual
theorem only_renderAt (r : Renderer) (c : Context) (p : Pattern) :
    Only (IsAt p.walk) (r.renderAt c p) := by
  match p with
  | .mk s children =>
    rw [renderAt, Pattern.walk]
    refine only_renderShape (fun d hd => ⟨_, List.mem_cons_self .., hd⟩) (fun inner e => ?_) c
    refine (only_renderBelow r inner e children).mono ?_
    rintro d ⟨q, hq, hd⟩
    exact ⟨q, List.mem_cons_of_mem _ hq, hd⟩

theorem only_renderBelow (r : Renderer) (c : Context) (e : Element)
    (children : List (Pattern × String)) :
    Only (IsAt (Pattern.walkAll children)) (r.renderBelow c e children) := by
  match children with
  | [] =>
    rw [renderBelow]
    exact only_ok e
  | (p, tail) :: rest =>
    rw [renderBelow, Pattern.walkAll]
    refine ((only_renderAt r c p).mono ?_).bind fun es => (only_renderBelow r c _ rest).mono ?_
    · rintro d ⟨q, hq, hd⟩
      exact ⟨q, List.mem_append_left _ hq, hd⟩
    · rintro d ⟨q, hq, hd⟩
      exact ⟨q, List.mem_append_right _ hq, hd⟩
end

end Renderer

namespace Pattern

theorem length_lt_childPath (path name : String) (number : Nat) :
    path.length < (childPath path name number).length := by
  simp only [childPath, String.length_append]
  have hslash : "/".length = 1 := rfl
  omega

mutual
theorem length_le_of_mem_walk (v : Vocabulary) (path : String) (e : Element) {q : Pattern}
    (h : q ∈ (analyzeAt v path e).walk) : path.length ≤ q.path.length := by
  match e with
  | .mk tag attributes text children =>
    rw [analyzeAt, walk, List.mem_cons] at h
    rcases h with rfl | h
    · exact Nat.le_refl _
    · exact Nat.le_of_lt (length_lt_of_mem_walkAll v path [] children h)

theorem length_lt_of_mem_walkAll (v : Vocabulary) (path : String) (seen : List String)
    (cs : List Child) {q : Pattern} (h : q ∈ walkAll (analyzeChildren v path seen cs)) :
    path.length < q.path.length := by
  match cs with
  | [] => simp [analyzeChildren, walkAll] at h
  | (e, tail) :: rest =>
    rw [analyzeChildren, walkAll, List.mem_append] at h
    rcases h with h | h
    · exact Nat.lt_of_lt_of_le (length_lt_childPath path _ _) (length_le_of_mem_walk v _ e h)
    · exact length_lt_of_mem_walkAll v path _ rest h
end

theorem only_renderBelow_analyzeAt (v : Vocabulary) (path : String) (e : Element) (r : Renderer)
    (c : Context) (copy : Element) :
    Only (fun d => d.path ≠ path) (r.renderBelow c copy (analyzeAt v path e).children) := by
  rw [children_analyzeAt]
  refine (Renderer.only_renderBelow r c copy _).mono ?_
  rintro d ⟨q, hq, hd⟩ rfl
  exact Nat.lt_irrefl _ (hd ▸ length_lt_of_mem_walkAll v d.path [] e.children hq)

end Pattern
end Microdata
