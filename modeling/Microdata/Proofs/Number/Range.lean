import Microdata.Number.Binary64
import Microdata.Number.Integer
set_option autoImplicit false

namespace Microdata

namespace Binary64

theorem pow_log2_le_roundSteps {num : Nat} (h : num ≠ 0) :
    Nat.pow 2 num.log2 ≤ roundSteps num 1 := by
  have hpos : 0 < num.log2 + 1 := Nat.succ_pos _
  have hplaces : surplus num ≤ num.log2 := by
    unfold surplus
    omega
  -- the leading digit is a multiple of the grain, so cutting off the rest keeps it
  have hdvd : Nat.pow 2 (surplus num) ∣ Nat.pow 2 num.log2 := Nat.pow_dvd_pow 2 hplaces
  have hle : Nat.pow 2 num.log2 ≤ num := Nat.log2_self_le h
  have hcut : Nat.pow 2 num.log2 ≤ num / Nat.pow 2 (surplus num) * Nat.pow 2 (surplus num) := by
    rw [← Nat.div_mul_cancel hdvd]
    exact Nat.mul_le_mul_right _ (Nat.div_le_div_right hle)
  refine Nat.le_trans hcut ?_
  simp only [roundSteps, roundTo, Nat.div_one, Nat.one_mul]
  refine Nat.mul_le_mul_right _ ?_
  split
  · exact Nat.le_succ _
  · exact Nat.le_refl _

theorem le_roundSteps {m num : Nat} (hm : ∃ k, m = Nat.pow 2 k) (h : m ≤ num) :
    m ≤ roundSteps num 1 := by
  obtain ⟨k, rfl⟩ := hm
  have hne : num ≠ 0 := Nat.ne_of_gt (Nat.lt_of_lt_of_le (Nat.pow_pos (by decide)) h)
  have hk : Nat.pow 2 k ≤ Nat.pow 2 num.log2 :=
    Nat.pow_le_pow_right (by decide) ((Nat.le_log2 hne).mpr h)
  exact Nat.le_trans hk (pow_log2_le_roundSteps hne)

theorem ofSteps_eq_inf {negative : Bool} {num den : Nat} (h : limit ≤ roundSteps num den) :
    ofSteps negative num den = inf negative := by
  unfold ofSteps
  exact if_neg (Nat.not_lt_of_le h)

theorem limit_le_roundSteps {num : Nat} (h : limit ≤ num) : limit ≤ roundSteps num 1 := by
  have hpow : ∃ k, limit = Nat.pow 2 k := by
    unfold limit
    exact ⟨_, Eq.refl _⟩
  exact le_roundSteps hpow h

theorem ofInt?_eq_none {n : Int} (h : limit ≤ n.natAbs * unit) : ofInt? n = none := by
  rw [ofInt?, ofSteps_eq_inf (limit_le_roundSteps h)]
  rfl

end Binary64

theorem Numeric.writeInteger_eq_error {n : Int} {f : Fault} (h : writeInteger n = .error f) :
    f = .integerTooLong ∧ Binary64.ofInt? n = none := by
  unfold writeInteger at h
  split at h
  · cases h
  · rename_i hlong
    have hpow : Binary64.limit ≤ Nat.pow 10 maxDigits := by decide +kernel
    have hunit : 1 ≤ Binary64.unit := by decide +kernel
    have hbig := Nat.le_trans hpow (Nat.le_of_not_lt hlong)
    have hsteps := Nat.le_trans hbig (Nat.le_mul_of_pos_right n.natAbs hunit)
    exact ⟨(Except.error.inj h).symm, Binary64.ofInt?_eq_none hsteps⟩

end Microdata
