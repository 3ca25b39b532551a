import Microdata.Expression.Evaluation
set_option autoImplicit false

namespace Microdata

variable {p : String} {e e' : Expr} {record : Fields}

/-- Whether an expression is an equation between the record's identifier and one property. -/
inductive Expr.Requests (p : String) : Expr → Prop
  | identifierFirst (s t u : Span) : Requests p (.binary .eq (.recordId s) (.name p t) u)
  | identifierLast (s t u : Span) : Requests p (.binary .eq (.name p s) (.recordId t) u)

theorem Expr.requested?_eq_some_iff : e.requested? = some p ↔ e.Requests p := by
  constructor
  · intro h
    unfold requested? at h
    split at h
    · cases h
      exact .identifierFirst ..
    · cases h
      exact .identifierLast ..
    · cases h
  · intro h
    cases h <;> rfl

variable {m : Marker} {source path : String} {v : Value} {batch : List Value} {strict : Bool}
  {verdict : Verdict} {ds : List Diagnostic}

/-- The property that an expression requests and its value, if that is a reference. -/
def followed? (m : Marker) (record : Fields) (e : Expr) : Option (String × Value) :=
  e.requested?.bind fun p => do
    let v ← record.get? p
    let _ ← m.target? v
    some (p, v)

theorem followed?_eq_some_iff {w : Value} : followed? m record e = some (p, w) ↔
    e.Requests p ∧ record.get? p = some w ∧ ∃ x, m.target? w = some x := by
  simp only [followed?, bind, Option.bind_eq_some_iff, Option.some.injEq, Prod.mk.injEq,
    Expr.requested?_eq_some_iff]
  constructor
  · rintro ⟨p, he, w, hw, x, hx, rfl, rfl⟩
    exact ⟨he, hw, x, hx⟩
  · rintro ⟨he, hw, x, hx⟩
    exact ⟨p, he, w, hw, x, hx, rfl, rfl⟩

theorem Expr.Requests.followed?_eq (h : e.Requests p) (h' : e'.Requests p) :
    followed? m record e' = followed? m record e := by
  rw [followed?, followed?, requested?_eq_some_iff.mpr h, requested?_eq_some_iff.mpr h']

def Diagnostic.failing (d : Diagnostic) (strict : Bool) : Verdict × List Diagnostic :=
  (.failed, [d.promote strict])

theorem evaluate_of_parsed (hp : parseExpression source = .ok e) :
    evaluate m source v batch path strict =
      match followed? m v.fields e with
      | some (p, w) =>
        match m.resolve? w batch with
        | none => .ok ((Diagnostic.dangling w p path "constraint").failing strict)
        | some r => .ok (⟨true, some r⟩, [])
      | none =>
        match e.eval v.fields Expr.depthLimit with
        | .ok x => .ok (.ofBool x.isTruthy, [])
        | .error .tooDeep =>
          .ok ((Diagnostic.malformed source "nested too deeply" path).failing strict)
        | .error f => .error f := by
  rw [evaluate, hp]
  rfl

inductive Diagnostic.OfConstraint (source path : String) : Diagnostic → Prop
  | malformed (reason : String) : OfConstraint source path (.malformed source reason path)
  | dangling (w : Value) (p : String) : OfConstraint source path (.dangling w p path "constraint")

/-- A constraint fails with a report, or it is answered, or the record that it requests is found. -/
theorem evaluate_cases (h : evaluate m source v batch path strict = .ok (verdict, ds)) :
    (verdict = .failed ∧ ∃ d : Diagnostic, d.OfConstraint source path ∧ ds = [d.promote strict]) ∨
      (verdict.resolved = none ∧ ds = []) ∨
      ∃ e p w r, parseExpression source = .ok e ∧ e.Requests p ∧ v.fields.get? p = some w ∧
        m.resolve? w batch = some r ∧ verdict = ⟨true, some r⟩ ∧ ds = [] := by
  cases hp : parseExpression source with
  | error e =>
    rw [evaluate, hp] at h
    cases h
    exact .inl ⟨rfl, _, .malformed _, rfl⟩
  | ok e =>
    rw [evaluate_of_parsed hp] at h
    split at h
    · rename_i p w hfollowed
      obtain ⟨hrequests, hget, -⟩ := followed?_eq_some_iff.mp hfollowed
      split at h
      · cases h
        exact .inl ⟨rfl, _, .dangling w p, rfl⟩
      · rename_i r hr
        cases h
        exact .inr (.inr ⟨e, p, w, r, rfl, hrequests, hget, hr, rfl, rfl⟩)
    · split at h
      · cases h
        exact .inr (.inl ⟨rfl, rfl⟩)
      · cases h
        exact .inl ⟨rfl, _, .malformed _, rfl⟩
      · cases h

end Microdata
