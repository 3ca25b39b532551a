import Microdata.Proofs.Expression.Requests
import Microdata.Proofs.Value.Comparison
set_option autoImplicit false

namespace Microdata

def Value.IsTextOf (w v : Value) : Prop := v.IsPlain ∧ v.markup.map .text = .ok w

theorem Value.IsTextOf.sameSide {v w : Value} (h : w.IsTextOf v) : v.SameSide w := by
  obtain ⟨s, hs, hsame⟩ := h.1.exists_text
  obtain ⟨t, ht, rfl⟩ := map_eq_ok.mp h.2
  obtain rfl : s = t := Except.ok.inj (hs.symm.trans ht)
  exact hsame

namespace Expr

variable {a b : Fields}

def isProperty : Expr → Bool
  | name _ _ | recordId _ => true
  | _ => false

/-- An expression that looks at a record only to compare what is there. -/
def Compares : Expr → Prop
  | text _ _ | number _ _ | bool _ _ => True
  | name _ _ | recordId _ => False
  | not operand _ => operand.Compares
  | binary op left right _ =>
    (left.Compares ∨ op.isComparison = true ∧ left.isProperty = true) ∧
      (right.Compares ∨ op.isComparison = true ∧ right.isProperty = true)

/-- Where an expression looks, the second record has the text of what the first one has. -/
def Agrees (a b : Fields) : Expr → Prop
  | text _ _ | number _ _ | bool _ _ => True
  | name n _ => (property b n).IsTextOf (property a n)
  | recordId _ => (identifier b).IsTextOf (identifier a)
  | not operand _ => operand.Agrees a b
  | binary _ left right _ => left.Agrees a b ∧ right.Agrees a b

/-- One fault, or values that a comparison cannot tell apart. -/
inductive Alike : Except Fault Value → Except Fault Value → Prop
  | error (f : Fault) : Alike (.error f) (.error f)
  | ok {v w : Value} (h : v.SameSide w) : Alike (.ok v) (.ok w)

theorem Alike.refl (x : Except Fault Value) : Alike x x := by
  cases x with
  | error f => exact .error f
  | ok v => exact .ok ⟨rfl, fun _ => rfl⟩

theorem alike_of_isProperty {e : Expr} (h : e.Agrees a b) (he : e.isProperty = true)
    (budget : Nat) : Alike (eval a budget e) (eval b budget e) := by
  cases budget with
  | zero => exact .refl _
  | succ budget =>
    cases e with
    | name n span => exact .ok h.sameSide
    | recordId span => exact .ok h.sameSide
    | _ => cases he

theorem eval_comparison {op : BinaryOp} (h : op.isComparison = true) (record : Fields)
    (budget : Nat) (left right : Expr) (span : Span) :
    eval record (budget + 1) (.binary op left right span) = (do
      let v ← eval record budget left
      let w ← eval record budget right
      .ok (.bool (← compareValues op v w budget))) := by
  cases op with
  | and => cases h
  | or => cases h
  | _ => rfl

theorem compare_of_alike (op : BinaryOp) (room : Nat) {x x' y y' : Except Fault Value}
    (hx : Alike x x') (hy : Alike y y') : (do
      let v ← x
      let w ← y
      Except.ok (Value.bool (← compareValues op v w room))) = (do
      let v ← x'
      let w ← y'
      Except.ok (Value.bool (← compareValues op v w room))) := by
  cases hx with
  | error f => rfl
  | ok hv =>
    cases hy with
    | error f => rfl
    | ok hw =>
      have hsame := compareValues_congr op hv hw room
      exact congrArg (· >>= fun c => Except.ok (Value.bool c)) hsame

theorem eval_of_agrees (budget : Nat) {e : Expr} (h : e.Agrees a b) (he : e.Compares) :
    eval a budget e = eval b budget e := by
  induction budget generalizing e with
  | zero => rfl
  | succ budget ih =>
    cases e with
    | text value span => rfl
    | number value span => rfl
    | bool value span => rfl
    | name n span => exact he.elim
    | recordId span => exact he.elim
    | not operand span =>
      have ho := ih (e := operand) h he
      simp only [eval, ho]
    | binary op left right span =>
      by_cases hop : op.isComparison = true
      · have hside {e : Expr} (h : e.Agrees a b)
            (he : e.Compares ∨ op.isComparison = true ∧ e.isProperty = true) :
            Alike (eval a budget e) (eval b budget e) := by
          rcases he with he | ⟨-, he⟩
          · exact ih h he ▸ .refl _
          · exact alike_of_isProperty h he budget
        rw [eval_comparison hop, eval_comparison hop]
        exact compare_of_alike op budget (hside h.1 he.1) (hside h.2 he.2)
      · have hl := ih h.1 (he.1.resolve_right fun hproperty => hop hproperty.1)
        have hr := ih h.2 (he.2.resolve_right fun hproperty => hop hproperty.1)
        simp only [eval, hl, hr]

end Expr

theorem exists_toString_cons (n : Int) :
    ∃ c s, toString n = String.ofList (c :: s) ∧ (c.isDigit = true ∨ c = '-') := by
  rw [toString_int]
  by_cases hn : n < 0
  · rw [decide_eq_true hn]
    exact ⟨'-', Nat.toDigits 10 n.natAbs, rfl, .inr rfl⟩
  · rw [decide_eq_false hn]
    have hne : Nat.toDigits 10 n.natAbs ≠ [] := Nat.toDigits_ne_nil
    obtain ⟨c, s, hdigits⟩ := List.exists_cons_of_ne_nil hne
    have hc : c ∈ Nat.toDigits 10 n.natAbs := hdigits ▸ List.mem_cons_self ..
    exact ⟨c, s, congrArg String.ofList hdigits,
      .inl (Numeral.isDigit_of_mem_toDigits hc)⟩

/-- A marker that begins no number and no truth value. -/
def Marker.IsForeign (m : Marker) : Prop :=
  ∀ c ∈ m.text.toList.head?, c.isDigit = false ∧ c ∉ ['-', 't', 'f']

namespace Marker

variable {m : Marker} {v w : Value}

theorem target?_eq_none (hm : m.IsForeign) {c : Char} {s : List Char}
    (hc : c.isDigit = true ∨ c ∈ ['-', 't', 'f']) :
    m.target? (.text (String.ofList (c :: s))) = none := by
  have hprefix : m.text.toList.isPrefixOf (c :: s) = false := by
    cases htext : m.text.toList with
    | nil => exact absurd (String.toList_eq_nil_iff.mp htext) m.nonempty
    | cons d rest =>
      obtain ⟨hdigit, hmark⟩ := hm d (by rw [htext]; rfl)
      have hne : d ≠ c := by
        rintro rfl
        rcases hc with hc | hc
        · rw [hdigit] at hc
          cases hc
        · exact hmark hc
      simp [List.isPrefixOf, hne]
  simp [target?, hprefix]

theorem target?_of_isTextOf (hm : m.IsForeign) (h : w.IsTextOf v) : m.target? w = m.target? v := by
  obtain ⟨hplain, hw⟩ := h
  cases hplain with
  | none =>
    cases hw
    simp [target?]
  | bool b =>
    cases hw
    cases b
    · exact target?_eq_none hm (c := 'f') (s := "alse".toList) (.inr (by decide))
    · exact target?_eq_none hm (c := 't') (s := "rue".toList) (.inr (by decide))
  | @int n hn =>
    rw [Value.markup_int hn] at hw
    cases hw
    obtain ⟨c, s, hs, hc⟩ := exists_toString_cons n
    rw [hs]
    exact target?_eq_none hm (hc.imp_right fun hminus => List.mem_cons.mpr (.inl hminus))
  | text s =>
    cases hw
    rfl

theorem eq_of_target? {s : String} (h : w.IsTextOf v) (hv : m.target? v = some s) : w = v := by
  cases v with
  | text t => exact (Except.ok.inj h.2).symm
  | _ => cases hv

end Marker

theorem followed?_eq (m : Marker) {e : Expr} {n : String} (h : e.Requests n) (record : Fields) :
    followed? m record e =
      (m.target? (Expr.property record n)).map fun _ => (n, Expr.property record n) := by
  rw [followed?, Expr.requested?_eq_some_iff.mpr h, Option.bind_some, Expr.property]
  cases record.get? n with
  | none => simp [Marker.target?]
  | some v =>
    cases v with
    | none => simp [Marker.target?]
    | _ =>
      rw [Option.map_eq_bind]
      rfl

theorem followed?_of_agrees {m : Marker} {e : Expr} {a b : Fields}
    (hm : ∀ n, e.Requests n → m.IsForeign) (h : e.Agrees a b) :
    followed? m a e = followed? m b e := by
  cases hrequested : e.requested? with
  | none => simp only [followed?, hrequested, Option.bind_none]
  | some n =>
    have hn := Expr.requested?_eq_some_iff.mp hrequested
    have htext : (Expr.property b n).IsTextOf (Expr.property a n) := by
      cases hn with
      | identifierFirst => exact h.2
      | identifierLast => exact h.1
    rw [followed?_eq m hn, followed?_eq m hn, Marker.target?_of_isTextOf (hm n hn) htext]
    cases htarget : m.target? (Expr.property a n) with
    | none => rfl
    | some s => rw [Marker.eq_of_target? htext htarget]

def reader : Fields :=
  [(.text "age", .int 30), (.text "active", .bool true), (.text "note", .none)]

def writtenReader : Fields := [(.text "age", .text "30"), (.text "active", .text "true")]

end Microdata
