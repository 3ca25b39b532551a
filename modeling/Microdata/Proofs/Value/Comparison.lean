import Microdata.Expression.Compare
import Microdata.Proofs.Number.Order
set_option autoImplicit false

/-!
What a comparison sees of its sides: the number and the text that a value stands for. The text of
an integer spells the number nearest to it (`numberOfText?_toString`), so a value and its text are
the same side of a comparison (`IsPlain.exists_text`). Main statement: `compare_integers`, integers
compare as they are, or as equal if they have one nearest number.
-/

namespace Microdata

theorem numberOfText?_eq (s : String) : numberOfText? s =
    ((Numeral.read? (Text.strip s)).map Numeral.nearest).bind Binary64.finite? := by
  unfold numberOfText?
  cases (Numeral.read? (Text.strip s)).map Numeral.nearest with
  | none => rfl
  | some x => cases x <;> rfl

theorem strip_toString (n : Int) : Text.strip (toString n) = toString n := by
  have hgraphic : ∀ c ∈ (toString n).toList, Text.isBlank c = false := by
    rw [toString_int, String.toList_ofList]
    intro c hc
    rcases List.mem_append.mp hc with hsign | hdigit
    · have hminus : c = '-' := by
        unfold Numeral.sign at hsign
        split at hsign
        · exact List.mem_singleton.mp hsign
        · cases hsign
      subst hminus
      decide
    · obtain ⟨hlow, hhigh⟩ := Numeral.toNat_of_isDigit (Numeral.isDigit_of_mem_toDigits hdigit)
      exact Text.isBlank_of_graphic (by omega)
  rw [Text.strip, Text.trim_of_forall hgraphic, String.ofList_toList]

theorem numberOfText?_toString (n : Int) : numberOfText? (toString n) = Binary64.ofInt? n := by
  rw [numberOfText?_eq, strip_toString, Numeral.read?_toString, Option.map_some, Option.bind_some,
    Numeral.finite?_nearest_toDigits]
  rfl

variable {v v' w w' : Value} {m n : Int} {x y : Binary64}

/-- Values that a comparison cannot tell apart. -/
structure Value.SameSide (v w : Value) : Prop where
  number : v.number? = w.number?
  markup (room : Nat) : v.markupIn room = w.markupIn room

theorem compareValues_congr (op : BinaryOp) (hv : v.SameSide v') (hw : w.SameSide w')
    (room : Nat) : compareValues op v w room = compareValues op v' w' room := by
  rw [compareValues, compareValues, Operands.of, Operands.of, hv.number, hv.markup, hw.number,
    hw.markup]

theorem compareValues_of_number? (op : BinaryOp) (hv : v.number? = .ok (some x))
    (hw : w.number? = .ok (some y)) (room : Nat := Value.room) :
    compareValues op v w room = .ok (op.decide (x.eq y) (x.lt y) (y.lt x)) := by
  rw [compareValues, Operands.of, hv, hw]
  rfl

theorem exists_compareValues_text (op : BinaryOp) (s t : String) :
    ∃ b, compareValues op (.text s) (.text t) = .ok b := by
  have hs : (Value.text s).number? = .ok (numberOfText? s) := rfl
  have ht : (Value.text t).number? = .ok (numberOfText? t) := rfl
  have hof : ∃ o, Operands.of (.text s) (.text t) = .ok o := by
    rw [Operands.of, hs, ht]
    cases numberOfText? s <;> cases numberOfText? t <;> exact ⟨_, rfl⟩
  obtain ⟨o, ho⟩ := hof
  exact ⟨o.compare op, map_eq_ok.mpr ⟨o, ho, rfl⟩⟩

/-- The absent value, truth values, texts, and the integers that are in range of the numbers. -/
inductive Value.IsPlain : Value → Prop
  | none : IsPlain .none
  | bool (b : Bool) : IsPlain (.bool b)
  | int {n : Int} (h : (Binary64.ofInt? n).isSome) : IsPlain (.int n)
  | text (s : String) : IsPlain (.text s)

namespace Value

theorem markup_int (h : (Binary64.ofInt? n).isSome) : (int n).markup = .ok (toString n) := by
  change Numeric.writeInteger n = _
  cases hwrite : Numeric.writeInteger n with
  | error f =>
    rw [(Numeric.writeInteger_eq_error hwrite).2] at h
    cases h
  | ok s =>
    unfold Numeric.writeInteger at hwrite
    split at hwrite
    · exact hwrite.symm
    · cases hwrite

theorem number?_int_of_some (h : Binary64.ofInt? n = some x) : (int n).number? = .ok (some x) := by
  rw [number?_int, h]
  rfl

theorem IsPlain.exists_text (h : v.IsPlain) : ∃ s, v.markup = .ok s ∧ v.SameSide (.text s) := by
  cases h with
  | none => exact ⟨"", rfl, ⟨rfl, fun _ => rfl⟩⟩
  | bool b =>
    have hname : numberOfText? (Json.boolText b) = Option.none := by cases b <;> decide +kernel
    exact ⟨Json.boolText b, rfl, ⟨congrArg Except.ok hname.symm, fun _ => rfl⟩⟩
  | @int n hn =>
    obtain ⟨x, hx⟩ := Option.isSome_iff_exists.mp hn
    refine ⟨toString n, markup_int hn, ?_, fun _ => markup_int hn⟩
    rw [number?_int_of_some hx, ← hx, ← numberOfText?_toString]
    rfl
  | text s => exact ⟨s, rfl, ⟨rfl, fun _ => rfl⟩⟩

end Value

inductive Value.Writes (n : Int) : Value → Prop
  | int : Writes n (.int n)
  | text : Writes n (.text (toString n))

theorem Value.Writes.number?_eq (h : v.Writes n) (hn : Binary64.ofInt? n = some x) :
    v.number? = .ok (some x) := by
  cases h with
  | int => exact number?_int_of_some hn
  | text =>
    rw [← hn, ← numberOfText?_toString]
    rfl

/-- Integers in range compare as integers, unless they are two with one nearest number, which have
more than 53 binary digits, differ in the last ones and compare as equal. -/
theorem compare_integers (hm : (Binary64.ofInt? m).isSome) (hn : (Binary64.ofInt? n).isSome)
    (hv : v.Writes m) (hw : w.Writes n) :
    (∀ op, compareValues op v w = .ok (
      if Binary64.ofInt? m = Binary64.ofInt? n then op.decide true false false
      else op.decide (m = n) (m < n) (n < m))) ∧
    (Binary64.ofInt? m = Binary64.ofInt? n → m ≠ n →
      2 ^ 53 ≤ m.natAbs ∧ 2 ^ 53 ≤ n.natAbs ∧
        2 ^ 53 * (m - n).natAbs ≤ m.natAbs + n.natAbs) := by
  refine ⟨fun op => ?_, Binary64.coarse_of_ofInt?_eq hm⟩
  obtain ⟨x, hx⟩ := Option.isSome_iff_exists.mp hm
  obtain ⟨y, hy⟩ := Option.isSome_iff_exists.mp hn
  rw [compareValues_of_number? op (hv.number?_eq hx) (hw.number?_eq hy),
    Binary64.eq_of_ofInt? hx hy, Binary64.lt_of_ofInt? hx hy, Binary64.lt_of_ofInt? hy hx, hx, hy]
  by_cases hxy : x = y
  · simp only [hxy, ne_eq, not_true_eq_false, and_false, decide_true, decide_false, if_true]
  · have hne : m ≠ n := fun h => hxy (Option.some.inj (hx.symm.trans (h ▸ hy)))
    simp only [Option.some.injEq, hxy, Ne.symm hxy, hne, ne_eq, not_false_eq_true, and_true,
      decide_false, if_false]

theorem compare_integers_adjacent : (Binary64.ofInt? 9007199254740991).isSome ∧
    (Binary64.ofInt? 9007199254740992).isSome ∧
    compareValues .lt (.int 9007199254740991) (.text "9007199254740992") = .ok true ∧
    compareValues .eq (.int 9007199254740991) (.text "9007199254740992") = .ok false := by
  have hm : (Binary64.ofInt? 9007199254740991).isSome := by decide +kernel
  have hn : (Binary64.ofInt? 9007199254740992).isSome := by decide +kernel
  have hne : Binary64.ofInt? 9007199254740991 ≠ Binary64.ofInt? 9007199254740992 := by
    decide +kernel
  have hall := (compare_integers hm hn .int .text).1
  simp only [if_neg hne] at hall
  exact ⟨hm, hn, hall .lt, hall .eq⟩

theorem not_forall_compare_integers : ¬∀ (m n : Int) (v w : Value),
    (Binary64.ofInt? m).isSome → (Binary64.ofInt? n).isSome → v.Writes m → w.Writes n →
    ∀ op, compareValues op v w = .ok (op.decide (m = n) (m < n) (n < m)) := by
  intro h
  have hm : (Binary64.ofInt? 9007199254740992).isSome := by decide +kernel
  have hn : (Binary64.ofInt? 9007199254740993).isSome := by decide +kernel
  have hequal : compareValues .eq (.int 9007199254740992) (.int 9007199254740993) = .ok true := by
    decide +kernel
  have hunequal := h 9007199254740992 9007199254740993 _ _ hm hn .int .int .eq
  rw [hequal] at hunequal
  exact absurd hunequal (by decide)

end Microdata
