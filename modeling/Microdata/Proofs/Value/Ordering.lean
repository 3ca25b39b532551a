import Mathlib.Data.String.Basic
import Microdata.Proofs.Value.Comparison
set_option autoImplicit false

/-!
The six comparisons as tests of one ordering. Two values that can be converted are less, equal or
greater (`Operands.exists_ordering`), as numbers or as texts, and every operator asks for some of
these. With the sides changed, the operators change as `BinaryOp.flip` says (`compareValues_flip`).
Main statement: `compare_trichotomy`.
-/

namespace Microdata

variable {v w : Value} {x y : Binary64} {o : Operands} {op : BinaryOp} {b : Bool} {room : Nat}

/-- The operator that says the same of the sides in the other order. -/
def BinaryOp.flip : BinaryOp → BinaryOp
  | lt => gt
  | gt => lt
  | lte => gte
  | gte => lte
  | op => op

theorem BinaryOp.decide_flip (op : BinaryOp) (equal less greater : Bool) :
    op.flip.decide equal less greater = op.decide equal greater less := by
  cases op <;> rfl

def Operands.swap : Operands → Operands
  | numbers x y => numbers y x
  | texts s t => texts t s

theorem Binary64.eq_comm (x y : Binary64) : x.eq y = y.eq x := by
  rw [Binary64.eq, Binary64.eq, Bool.and_comm (x != nan), BEq.comm]

theorem Operands.compare_swap (o : Operands) (op : BinaryOp) :
    o.swap.compare op.flip = o.compare op := by
  cases o with
  | numbers x y => rw [swap, compare, compare, BinaryOp.decide_flip, Binary64.eq_comm]
  | texts s t => rw [swap, compare, compare, BinaryOp.decide_flip, BEq.comm]

theorem Operands.of_swap (h : Operands.of v w room = .ok o) :
    Operands.of w v room = .ok o.swap := by
  obtain ⟨x, hx, h⟩ := bind_eq_ok.mp h
  obtain ⟨y, hy, h⟩ := bind_eq_ok.mp h
  rw [Operands.of, hx, hy]
  split at h
  · cases h
    rfl
  · rename_i hnone
    obtain ⟨s, hs, h⟩ := bind_eq_ok.mp h
    obtain ⟨t, ht, h⟩ := bind_eq_ok.mp h
    cases h
    -- whichever side is no number, both are compared as texts
    have htexts : (do
        let t ← w.markupIn room
        let s ← v.markupIn room
        Except.ok (Operands.texts t s)) = .ok (Operands.texts s t).swap := by
      rw [hs, ht]
      rfl
    cases x with
    | none => cases y <;> exact htexts
    | some x =>
      cases y with
      | none => exact htexts
      | some y => exact absurd rfl (hnone x y rfl)

theorem compareValues_flip (h : compareValues op v w room = .ok b) :
    compareValues op.flip w v room = .ok b := by
  obtain ⟨o, ho, hb⟩ := map_eq_ok.mp h
  exact map_eq_ok.mpr ⟨o.swap, Operands.of_swap ho, (o.compare_swap op).trans hb⟩

/-- The number and the text that a value stands for can be had. -/
structure Value.Converts (v : Value) : Prop where
  number : ∃ x, v.number? = .ok x
  markup : ∃ s, v.markup = .ok s

theorem Value.IsPlain.converts (h : v.IsPlain) : v.Converts := by
  obtain ⟨s, hs, hside⟩ := h.exists_text
  exact ⟨⟨_, hside.number⟩, s, hs⟩

theorem Value.Converts.exists_operands (hv : v.Converts) (hw : w.Converts) :
    ∃ o, Operands.of v w = .ok o := by
  obtain ⟨⟨x, hx⟩, s, hs⟩ := hv
  obtain ⟨⟨y, hy⟩, t, ht⟩ := hw
  rw [Value.markup] at hs ht
  rw [Operands.of, hx, hy, hs, ht]
  cases x <;> cases y <;> exact ⟨_, rfl⟩

theorem Value.ne_nan_of_number? (h : v.number? = .ok (some x)) (hv : v ≠ .float .nan) :
    x ≠ .nan := by
  cases v with
  | int n =>
    rw [number?_int] at h
    cases hn : Binary64.ofInt? n with
    | none =>
      rw [hn] at h
      cases h
    | some y =>
      rw [hn] at h
      cases h
      exact Binary64.ne_nan_of_ofInt? hn
  | float y =>
    cases h
    exact fun hy => hv (congrArg Value.float hy)
  | text s =>
    have hs : numberOfText? s = some x := Except.ok.inj h
    unfold numberOfText? at hs
    split at hs <;> cases hs
    nofun
  | _ => cases h

theorem Operands.number?_of (h : Operands.of v w = .ok (.numbers x y)) :
    v.number? = .ok (some x) ∧ w.number? = .ok (some y) := by
  obtain ⟨x', hx, h⟩ := bind_eq_ok.mp h
  obtain ⟨y', hy, h⟩ := bind_eq_ok.mp h
  split at h
  · cases h
    exact ⟨hx, hy⟩
  · obtain ⟨s, -, h⟩ := bind_eq_ok.mp h
    obtain ⟨t, -, h⟩ := bind_eq_ok.mp h
    cases h

theorem Binary64.exists_ordering (hx : x ≠ nan) (hy : y ≠ nan) : ∃ c : Ordering,
    x.eq y = c.isEq ∧ x.lt y = c.isLT ∧ y.lt x = c.isGT := by
  have hx : (x != nan) = true := by simpa using hx
  have hy : (y != nan) = true := by simpa using hy
  simp only [Binary64.eq, Binary64.lt, hx, hy, Bool.true_and]
  rcases Int.lt_trichotomy x.position y.position with h | h | h
  · exact ⟨.lt, beq_false_of_ne (by omega), decide_eq_true h, decide_eq_false (by omega)⟩
  · exact ⟨.eq, beq_iff_eq.mpr h, decide_eq_false (by omega), decide_eq_false (by omega)⟩
  · exact ⟨.gt, beq_false_of_ne (by omega), decide_eq_false (by omega), decide_eq_true h⟩

theorem Operands.exists_ordering (h : ∀ x y, o = .numbers x y → x ≠ .nan ∧ y ≠ .nan) :
    ∃ c : Ordering, ∀ op, o.compare op = op.decide c.isEq c.isLT c.isGT := by
  cases o with
  | numbers x y =>
    obtain ⟨hx, hy⟩ := h x y rfl
    obtain ⟨c, heq, hlt, hgt⟩ := Binary64.exists_ordering hx hy
    exact ⟨c, fun op => by rw [compare, heq, hlt, hgt]⟩
  | texts s t =>
    rcases lt_trichotomy s t with h | rfl | h
    · refine ⟨.lt, fun op => ?_⟩
      rw [compare, beq_false_of_ne (ne_of_lt h), decide_eq_true h, decide_eq_false (lt_asymm h)]
      rfl
    · refine ⟨.eq, fun op => ?_⟩
      rw [compare, BEq.rfl, decide_eq_false (lt_irrefl s)]
      rfl
    · refine ⟨.gt, fun op => ?_⟩
      rw [compare, beq_false_of_ne (ne_of_gt h), decide_eq_false (lt_asymm h), decide_eq_true h]
      rfl

/-- Two values that can be converted and that are not no numbers are less, equal or greater, and
just one of these. The other operators say that it is not one of these, and in the other order the
values are what they are in this one, with less and greater changed. -/
theorem compare_trichotomy (hv : v.Converts) (hw : w.Converts) (hvn : v ≠ .float .nan)
    (hwn : w ≠ .float .nan) : ∃ lt eq gt : Bool, [lt, eq, gt].count true = 1 ∧
      compareValues .lt v w = .ok lt ∧ compareValues .eq v w = .ok eq ∧
      compareValues .gt v w = .ok gt ∧ compareValues .neq v w = .ok (!eq) ∧
      compareValues .lte v w = .ok (!gt) ∧ compareValues .gte v w = .ok (!lt) ∧
      compareValues .gt w v = .ok lt ∧ compareValues .eq w v = .ok eq ∧
      compareValues .lt w v = .ok gt := by
  obtain ⟨o, ho⟩ := hv.exists_operands hw
  obtain ⟨c, hc⟩ : ∃ c : Ordering, ∀ op, o.compare op = op.decide c.isEq c.isLT c.isGT := by
    refine Operands.exists_ordering fun x y hxy => ?_
    obtain ⟨hx, hy⟩ := Operands.number?_of (hxy ▸ ho)
    exact ⟨Value.ne_nan_of_number? hx hvn, Value.ne_nan_of_number? hy hwn⟩
  have hcompare (op : BinaryOp) :
      compareValues op v w = .ok (op.decide c.isEq c.isLT c.isGT) := map_eq_ok.mpr ⟨o, ho, hc op⟩
  have hflip (op : BinaryOp) := compareValues_flip (hcompare op)
  refine ⟨c.isLT, c.isEq, c.isGT, ?_, hcompare .lt, hcompare .eq, hcompare .gt, hcompare .neq,
    ?_, ?_, hflip .lt, hflip .eq, hflip .gt⟩
  · cases c <;> rfl
  · rw [hcompare]
    cases c <;> rfl
  · rw [hcompare]
    cases c <;> rfl

theorem compare_trichotomy_mixed : (Value.int 10).Converts ∧ (Value.text " 9.5").Converts ∧
    compareValues .gt (.int 10) (.text " 9.5") = .ok true ∧
    compareValues .lt (.int 10) (.text " 9.5") = .ok false ∧
    compareValues .eq (.int 10) (.text " 9.5") = .ok false ∧
    compareValues .lte (.int 10) (.text " 9.5") = .ok false ∧
    compareValues .lt (.text " 9.5") (.int 10) = .ok true := by
  have hv : (Value.int 10).Converts := Value.IsPlain.converts (.int (by decide +kernel))
  have hw : (Value.text " 9.5").Converts := Value.IsPlain.converts (.text _)
  have hgreater : compareValues .gt (.int 10) (.text " 9.5") = .ok true := by decide +kernel
  obtain ⟨lt, eq, gt, hone, hlt, heq, hgt, -, hlte, -, -, -, hswap⟩ :=
    compare_trichotomy hv hw nofun nofun
  obtain rfl : gt = true := Except.ok.inj (hgt.symm.trans hgreater)
  obtain ⟨rfl, rfl⟩ : lt = false ∧ eq = false := by
    revert hone
    cases lt <;> cases eq <;> decide
  exact ⟨hv, hw, hgt, hlt, heq, hlte, hswap⟩

end Microdata
