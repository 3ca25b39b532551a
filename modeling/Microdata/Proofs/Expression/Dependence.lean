import Microdata.Proofs.Expression.Requests
set_option autoImplicit false

namespace Microdata

namespace Expr

def names : Expr → List String
  | name n _ => [n]
  | binary _ left right _ => left.names ++ right.names
  | not operand _ => operand.names
  | text _ _ | number _ _ | bool _ _ | recordId _ => []

theorem Requests.mem_names {e : Expr} {n : String} (h : e.Requests n) : n ∈ e.names := by
  cases h <;> simp [names]

theorem eval_congr {a b : Fields} (hid : Fields.get? idKey a = Fields.get? idKey b) (e : Expr)
    (budget : Nat) (h : ∀ n ∈ e.names, Fields.get? n a = Fields.get? n b) :
    eval a budget e = eval b budget e := by
  induction budget generalizing e with
  | zero => rfl
  | succ budget ih =>
    cases e with
    | text value span => rfl
    | number value span => rfl
    | bool value span => rfl
    | recordId span => simp only [eval, identifier, hid]
    | name n span => simp only [eval, property, h n (by simp [names])]
    | not operand span =>
      have ho := ih operand h
      simp only [eval, ho]
    | binary op left right span =>
      have hl := ih left fun n hn => h n (by simp [names, hn])
      have hr := ih right fun n hn => h n (by simp [names, hn])
      simp only [eval, hl, hr]

end Expr

theorem followed?_congr {a b : Fields} (m : Marker) {e : Expr}
    (h : ∀ n ∈ e.names, Fields.get? n a = Fields.get? n b) : followed? m a e = followed? m b e := by
  unfold followed?
  cases hrequested : e.requested? with
  | none => rfl
  | some n => simp only [Option.bind_some, h n (Expr.requested?_eq_some_iff.mp hrequested).mem_names]

/-- The properties that the text of a constraint names; none if it is no expression. -/
def constraintNames (source : String) : List String :=
  match parseExpression source with
  | .ok e => e.names
  | .error _ => []

end Microdata
