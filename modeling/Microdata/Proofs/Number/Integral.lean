import Microdata.Expression.Basic
import Microdata.Proofs.Number.Numeral
import Microdata.Proofs.Number.Range
set_option autoImplicit false

namespace Microdata

namespace Binary64

/-- Whether the number has no more than 53 binary digits and is in range. -/
def IsDouble : Binary64 → Prop
  | finite _ steps => steps < limit ∧ Nat.pow 2 (surplus steps) ∣ steps
  | _ => True

def unsignedZero : Binary64 → Binary64
  | finite _ 0 => finite false 0
  | x => x

theorem eq_of_finite?_eq_some {x y : Binary64} (h : x.finite? = some y) : x = y := by
  cases x with
  | finite negative steps => exact Option.some.inj h
  | _ => cases h

theorem roundSteps_of_dvd {steps : Nat} (h : Nat.pow 2 (surplus steps) ∣ steps) :
    roundSteps steps 1 = steps := by
  have hpos : 0 < Nat.pow 2 (surplus steps) := Nat.pow_pos (by decide)
  have hmod := Nat.mod_eq_zero_of_dvd h
  have hdiv := Nat.div_mul_cancel h
  have hne : (0 == Nat.pow 2 (surplus steps)) = false := by
    rw [beq_eq_false_iff_ne]
    omega
  simp only [roundSteps, roundTo, Nat.div_one, Nat.one_mul, hmod, Nat.mul_zero, Nat.not_lt_zero,
    hne, Bool.false_and]
  simpa using hdiv

theorem ofSteps_of_isDouble {negative : Bool} {steps : Nat}
    (h : (finite negative steps).IsDouble) : ofSteps negative steps 1 = finite negative steps := by
  obtain ⟨hlt, hdvd⟩ := h
  simp only [ofSteps, roundSteps_of_dvd hdvd, hlt, if_true]

end Binary64

namespace Numeral

theorem ofDigits_values (digits : List Char) :
    ofDigits (values digits) = Nat.ofDigitChars 10 digits 0 := by
  rw [ofDigits, values, List.foldl_map, Nat.ofDigitChars_eq_foldl]
  rfl

theorem ofDigits_dropWhile (ds : List Nat) :
    ofDigits (ds.dropWhile (· == 0)) = ofDigits ds := by
  induction ds with
  | nil => rfl
  | cons d ds ih =>
    by_cases hd : d = 0
    · subst hd
      rw [List.dropWhile_cons_of_pos rfl, ih]
      simp [ofDigits]
    · rw [List.dropWhile_cons_of_neg (by simpa using hd)]

theorem length_toDigits_le {n : Nat} (h : n * Binary64.unit < Binary64.limit) :
    (Nat.toDigits 10 n).length ≤ 400 := by
  have hlimit : Binary64.limit = Nat.pow 2 1024 * Binary64.unit := by decide +kernel
  obtain ⟨k, hpos, hk, hpow⟩ : ∃ k, 0 < k ∧ k ≤ 400 ∧ Nat.pow 2 1024 ≤ 10 ^ k :=
    ⟨400, by decide, by decide, by decide +kernel⟩
  rw [hlimit] at h
  have hn := Nat.lt_of_lt_of_le (Nat.lt_of_mul_lt_mul_right h) hpow
  exact Nat.le_trans ((Nat.length_toDigits_le_iff (by decide) hpos).mpr hn) hk

theorem nearest_whole {negative : Bool} {digits : List Nat} {d : Nat} {ds : List Nat}
    (hds : digits.dropWhile (· == 0) = d :: ds) : nearest (decimal negative digits 0) =
      if 400 < (d :: ds).length then .inf negative
      else .ofSteps negative (ofDigits digits * Binary64.unit) 1 := by
  have hdigits : ofDigits (d :: ds) = ofDigits digits := by rw [← hds, ofDigits_dropWhile]
  have hlow : ¬((0 : Int) + (d :: ds).length < -400) := by omega
  simp only [nearest, hds, hdigits]
  rw [if_neg (by simpa using hlow)]
  by_cases hlong : 400 < (d :: ds).length
  · rw [if_pos hlong, if_pos (by omega)]
  · rw [if_neg hlong, if_neg (by omega)]
    change Binary64.ofSteps negative (ofDigits digits * 1 * Binary64.unit) 1 = _
    rw [Nat.mul_one]

theorem finite?_nearest_toDigits (negative : Bool) (n : Nat) :
    (nearest (decimal negative (values (Nat.toDigits 10 n)) 0)).finite? =
      (Binary64.ofSteps negative (n * Binary64.unit) 1).finite? := by
  have hvalue : ofDigits (values (Nat.toDigits 10 n)) = n := by
    rw [ofDigits_values, Nat.ofDigitChars_ten_toDigits]
  cases hds : (values (Nat.toDigits 10 n)).dropWhile (· == 0) with
  | nil =>
    have hzero : (Binary64.finite negative 0).IsDouble := ⟨by decide +kernel, Nat.dvd_zero _⟩
    have hn : 0 = n := by rwa [← ofDigits_dropWhile, hds] at hvalue
    have hnearest : nearest (decimal negative (values (Nat.toDigits 10 n)) 0) =
        .finite negative 0 := by
      simp [nearest, hds]
    rw [hnearest, ← hn, Nat.zero_mul, Binary64.ofSteps_of_isDouble hzero]
  | cons d ds =>
    rw [nearest_whole hds, hvalue]
    split
    · rename_i hlong
      have hle := ((values (Nat.toDigits 10 n)).dropWhile_sublist (· == 0)).length_le
      rw [hds, values, List.length_map] at hle
      have hlimit : ¬n * Binary64.unit < Binary64.limit := fun hlt => by
        have := length_toDigits_le hlt
        omega
      rw [Binary64.ofSteps_eq_inf (Binary64.limit_le_roundSteps (Nat.le_of_not_lt hlimit))]
    · rfl

theorem nearest_toDigits {negative : Bool} {n : Nat}
    (h : (Binary64.finite negative (n * Binary64.unit)).IsDouble) :
    nearest (decimal negative (values (Nat.toDigits 10 n)) 0) =
      .finite negative (n * Binary64.unit) := by
  have hfinite := finite?_nearest_toDigits negative n
  rw [Binary64.ofSteps_of_isDouble h] at hfinite
  exact Binary64.eq_of_finite?_eq_some hfinite

end Numeral
namespace Binary64

variable {x : Binary64} {n : Int}

theorem unsignedZero_of_ne {negative : Bool} {steps : Nat} (h : steps ≠ 0) :
    (finite negative steps).unsignedZero = finite negative steps := by
  cases steps with
  | zero => exact absurd rfl h
  | succ steps => rfl

theorem unit_ne_zero : unit ≠ 0 := by decide +kernel

theorem exists_eq_finite (h : x.toInt? = some n) :
    ∃ negative, x = finite negative (n.natAbs * unit) ∧ (n ≠ 0 → negative = decide (n < 0)) := by
  unfold toInt? at h
  split at h
  · rename_i negative steps
    split at h
    · rename_i hmod
      have hdiv := Nat.div_mul_cancel (Nat.dvd_of_mod_eq_zero (beq_iff_eq.mp hmod))
      generalize steps / unit = m at h hdiv
      have hn : n = if negative then -(m : Int) else m := (Option.some.inj h).symm
      have habs : n.natAbs = m := by
        rw [hn]
        cases negative <;> simp
      refine ⟨negative, by rw [habs, hdiv], fun hne => ?_⟩
      cases negative with
      | true =>
        rw [if_pos rfl] at hn
        simp only [Bool.true_eq, decide_eq_true_eq]
        omega
      | false =>
        rw [if_neg Bool.false_ne_true] at hn
        simp only [Bool.false_eq, decide_eq_false_iff_not]
        omega
    · cases h
  · cases h

theorem unsignedZero_eq (h : x.toInt? = some n) :
    x.unsignedZero = finite (decide (n < 0)) (n.natAbs * unit) := by
  obtain ⟨negative, rfl, hn⟩ := exists_eq_finite h
  by_cases hz : n = 0
  · subst hz
    simp [unsignedZero]
  · rw [hn hz]
    have hne : n.natAbs * unit ≠ 0 := Nat.mul_ne_zero (by omega) unit_ne_zero
    exact unsignedZero_of_ne hne

theorem isDouble_natAbs (hx : x.IsDouble) (h : x.toInt? = some n) (negative : Bool) :
    (finite negative (n.natAbs * unit)).IsDouble := by
  obtain ⟨_, rfl, -⟩ := exists_eq_finite h
  exact hx

end Binary64

theorem toString_int (n : Int) : toString n =
    String.ofList (Numeral.sign (decide (n < 0)) ++ Nat.toDigits 10 n.natAbs) := by
  rw [Int.toString_eq_repr, Int.repr_eq_if]
  by_cases hn : n < 0
  · have habs : (-n).toNat = n.natAbs := by omega
    rw [if_neg (by omega), habs, Nat.repr_eq_ofList_toDigits, decide_eq_true hn,
      String.ofList_append]
    rfl
  · have habs : n.toNat = n.natAbs := by omega
    rw [if_pos (by omega), habs, Nat.repr_eq_ofList_toDigits, decide_eq_false hn]
    rfl

theorem Numeral.read?_toString (n : Int) : read? (toString n) =
    some (decimal (decide (n < 0)) (values (Nat.toDigits 10 n.natAbs)) 0) := by
  rw [toString_int]
  exact read?_whole _ (fun c hc => isDigit_of_mem_toDigits hc) Nat.toDigits_ne_nil

theorem numberText_eq {x : Binary64} {n : Int} (h : x.toInt? = some n) :
    Expr.numberText x =
      String.ofList (Numeral.sign (decide (n < 0)) ++ Nat.toDigits 10 n.natAbs) := by
  simp only [Expr.numberText, h, toString_int]

theorem exists_read?_numberText {x : Binary64} {n : Int} (hx : x.IsDouble)
    (h : x.toInt? = some n) :
    ∃ m, Numeral.read? (Expr.numberText x) = some m ∧ m.nearest = x.unsignedZero := by
  have htext : Expr.numberText x = toString n := by simp only [Expr.numberText, h]
  rw [htext, Numeral.read?_toString]
  refine ⟨_, rfl, ?_⟩
  rw [Numeral.nearest_toDigits (Binary64.isDouble_natAbs hx h _), Binary64.unsignedZero_eq h]

end Microdata
