import Mathlib.Data.List.Forall2
import Microdata.Binding.Context
import Microdata.Proofs.Expression.Dependence
import Microdata.Reported
set_option autoImplicit false

/-!
Values that differ at most in what one name holds. Lookups of other names, references and
constraints that do not name it cannot tell them apart: they give the same result, or results that
again differ at most there (`evaluate_agree`).
-/

namespace Microdata

namespace Reported

variable {α β γ : Type}

/-- The same report, with the same fault or with results that are related. -/
inductive Agree (R : α → β → Prop) : Reported α → Reported β → Prop
  | fault (e : Fault) (ds : List Diagnostic) : Agree R ⟨.error e, ds⟩ ⟨.error e, ds⟩
  | result {a : α} {b : β} (ds : List Diagnostic) (h : R a b) : Agree R ⟨.ok a, ds⟩ ⟨.ok b, ds⟩

theorem Agree.bind_eq {R : α → β → Prop} {x : Reported α} {y : Reported β}
    {f : α → Reported γ} {g : β → Reported γ} (h : Agree R x y)
    (hfg : ∀ a b, R a b → f a = g b) : (x >>= f) = (y >>= g) := by
  cases h with
  | fault e ds => rfl
  | result ds hab => rw [bind_of_ok, bind_of_ok, hfg _ _ hab]

theorem Agree.refl (x : Reported α) : Agree Eq x x := by
  match x with
  | ⟨.error e, ds⟩ => exact .fault e ds
  | ⟨.ok a, ds⟩ => exact .result ds rfl

theorem Agree.eq {x y : Reported α} (h : Agree Eq x y) : x = y := by
  cases h with
  | fault e ds => rfl
  | result ds hab => rw [hab]

theorem Agree.exists_of_run {R : α → β → Prop} {x : Reported α} {y : Reported β} {a : α}
    {ds : List Diagnostic} (h : Agree R x y) (hx : x.run = .ok (a, ds)) :
    ∃ b, y.run = .ok (b, ds) ∧ R a b := by
  cases h with
  | fault e ds => cases hx
  | @result a' b ds' hab =>
    cases hx
    exact ⟨b, rfl, hab⟩

theorem Agree.bind {R : α → β → Prop} {δ : Type} {S : γ → δ → Prop} {x : Reported α}
    {y : Reported β} {f : α → Reported γ} {g : β → Reported δ} (h : Agree R x y)
    (hfg : ∀ a b ds, x.run = .ok (a, ds) → R a b → Agree S (f a) (g b)) :
    Agree S (x >>= f) (y >>= g) := by
  cases h with
  | fault e ds => exact .fault e ds
  | @result a b ds hab =>
    have hs := hfg a b ds rfl hab
    rw [bind_of_ok, bind_of_ok]
    generalize f a = p, g b = q at hs
    cases hs with
    | fault e more => exact .fault e (ds ++ more)
    | result more hcd => exact .result (ds ++ more) hcd

theorem filterMap_congr {R : α → β → Prop} {f : α → Reported (Option γ)}
    {g : β → Reported (Option γ)} {l : List α} {m : List β} (h : List.Forall₂ R l m)
    (hfg : ∀ a b, R a b → f a = g b) : filterMap f l = filterMap g m := by
  induction h with
  | nil => rfl
  | cons hab _ ih => simp only [filterMap, hfg _ _ hab, ih]

end Reported

/-- Two records that hold the same under every name but `k`. -/
def Fields.AgreesOff (k : String) (a b : Fields) : Prop :=
  ∀ name, name ≠ k → Fields.get? name a = Fields.get? name b

/-- The same value, or two records that hold the same under every name but `k`. -/
inductive Value.AgreesOff (k : String) : Value → Value → Prop
  | same (v : Value) : AgreesOff k v v
  | record {a b : Fields} (h : Fields.AgreesOff k a b) : AgreesOff k (.record a) (.record b)

variable {k : String} {v w : Value} {batch batch' : List Value}

namespace Value.AgreesOff

theorem fields (h : v.AgreesOff k w) : Fields.AgreesOff k v.fields w.fields := by
  cases h with
  | same => exact fun _ _ => rfl
  | record h => exact h

theorem get?_eq (h : v.AgreesOff k w) {name : String} (hn : name ≠ k) :
    v.get? name = w.get? name := h.fields name hn

theorem isRecord_eq (h : v.AgreesOff k w) : v.isRecord = w.isRecord := by
  cases h with
  | same => rfl
  | record h => rfl

theorem identifier?_eq (h : v.AgreesOff k w) (hk : idKey ≠ k) :
    v.identifier? = w.identifier? := by
  simp only [Value.identifier?, h.get?_eq hk]

theorem checkIdentifier_eq (h : v.AgreesOff k w) (hk : idKey ≠ k) :
    v.checkIdentifier = w.checkIdentifier := by
  simp only [checkIdentifier, h.identifier?_eq hk]

theorem getD_record (h : v.AgreesOff k w) {a b : Option Fields}
    (hab : Option.Rel (Fields.AgreesOff k) a b) :
    Value.AgreesOff k ((a.map Value.record).getD v) ((b.map Value.record).getD w) := by
  cases hab with
  | some hf => exact .record hf
  | none => exact h

end Value.AgreesOff

namespace Marker

variable (m : Marker)

theorem identifies_eq (h : v.AgreesOff k w) (hk : idKey ≠ k) (id : String) :
    identifies id v = identifies id w := by
  simp only [identifies, h.get?_eq hk]

theorem pointsAt_eq (h : v.AgreesOff k w) {property : String} (hp : property ≠ k)
    (identifier : Value) : m.pointsAt property identifier v = m.pointsAt property identifier w := by
  simp only [pointsAt, h.isRecord_eq, h.get?_eq hp]

theorem checkPointed_eq (h : List.Forall₂ (Value.AgreesOff k) batch batch') {property : String}
    (hp : property ≠ k) (identifier : Value) :
    checkPointed property identifier batch = checkPointed property identifier batch' := by
  have hany : batch.any (holdsText property) = batch'.any (holdsText property) := by
    induction h with
    | nil => rfl
    | cons hvw _ ih => simp only [List.any_cons, holdsText, hvw.get?_eq hp, ih]
  rw [checkPointed, checkPointed, hany]

theorem find?_agree (h : List.Forall₂ (Value.AgreesOff k) batch batch') (hk : idKey ≠ k)
    (id : String) :
    Option.Rel (Value.AgreesOff k) (batch.find? (identifies id))
      (batch'.find? (identifies id)) := by
  induction h with
  | nil => exact .none
  | @cons v w rest rest' hvw _ ih =>
    have he := identifies_eq hvw hk id
    cases hi : identifies id w with
    | true =>
      rw [List.find?_cons_of_pos (he.trans hi), List.find?_cons_of_pos hi]
      exact .some hvw
    | false =>
      rw [List.find?_cons_of_neg (by simp [he, hi]), List.find?_cons_of_neg (by simp [hi])]
      exact ih

theorem resolve?_agree (h : List.Forall₂ (Value.AgreesOff k) batch batch') (hk : idKey ≠ k)
    (reference : Value) :
    Option.Rel (Fields.AgreesOff k) (m.resolve? reference batch) (m.resolve? reference batch') := by
  unfold resolve?
  cases m.target? reference with
  | none => exact .none
  | some id =>
    have hr := find?_agree h hk id
    simp only
    generalize batch.find? _ = a, batch'.find? _ = b at hr ⊢
    cases hr with
    | none => exact .none
    | some hvw => exact .some hvw.fields

end Marker

structure Verdict.AgreesOff (k : String) (a b : Verdict) : Prop where
  passed : a.passed = b.passed
  resolved : Option.Rel (Fields.AgreesOff k) a.resolved b.resolved

theorem Verdict.AgreesOff.refl (k : String) (a : Verdict) : a.AgreesOff k a where
  passed := rfl
  resolved := by
    cases a.resolved with
    | none => exact .none
    | some r => exact .some fun _ _ => rfl

theorem evaluate_agree (m : Marker) {source : String} (hs : k ∉ constraintNames source)
    (hk : idKey ≠ k) (hv : v.AgreesOff k w)
    (hb : List.Forall₂ (Value.AgreesOff k) batch batch') (path : String)
    (strict : Bool) :
    Reported.Agree (Verdict.AgreesOff k) (.ofRun (evaluate m source v batch path strict))
      (.ofRun (evaluate m source w batch' path strict)) := by
  cases hp : parseExpression source with
  | error e =>
    simp only [evaluate, hp]
    exact .result _ (.refl k _)
  | ok e =>
    simp only [constraintNames, hp] at hs
    have hget : ∀ n ∈ e.names, Fields.get? n v.fields = Fields.get? n w.fields :=
      fun n hn => hv.fields n fun hnk => hs (hnk ▸ hn)
    have hval := Expr.eval_congr (hv.fields _ hk) e Expr.depthLimit hget
    -- the property that is asked for, if any, is one of those that the constraint names
    have hfollowed := followed?_congr m hget
    rw [evaluate_of_parsed hp, evaluate_of_parsed hp, hfollowed, hval]
    split
    · rename_i x _
      have hr := m.resolve?_agree hb hk x
      generalize m.resolve? x batch = a, m.resolve? x batch' = b at hr ⊢
      cases hr with
      | none => exact .result _ (.refl k _)
      | some hab => exact .result _ ⟨rfl, .some hab⟩
    · split
      · exact .result _ (.refl k _)
      · exact .result _ (.refl k _)
      · exact .fault _ []

end Microdata
