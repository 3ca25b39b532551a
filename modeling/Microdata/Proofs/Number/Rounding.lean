import Mathlib.Algebra.Order.Field.Basic
import Mathlib.Tactic.Linarith
import Mathlib.Tactic.NormNum
import Mathlib.Tactic.Ring
import Microdata.Number.Shortest
import Microdata.Proofs.Number.Integral
import Microdata.Proofs.Number.Range
set_option autoImplicit false

/-!
Rounding as a matter of distance. A quotient is rounded to the multiple of the grain that is no more
than half a grain away, and to an even one if it is just half a grain (`roundTo_eq`). Main
statements: `roundSteps_of_holds`, all that lies in the interval of a number is rounded to it, and
`isDouble_of_ofSteps`, what rounding gives has no more than 53 binary digits.
-/

namespace Microdata.Binary64

theorem roundTo_eq {g m num den : Nat} (hg : 0 < g) (hden : 0 < den)
    (hlow : 2 * (den * g * m) ≤ 2 * num + den * g) (hhigh : 2 * num ≤ 2 * (den * g * m) + den * g)
    (htie : m % 2 = 1 → 2 * (den * g * m) < 2 * num + den * g ∧
      2 * num < 2 * (den * g * m) + den * g) : roundTo g num den = m * g := by
  have hd : 0 < den * g := Nat.mul_pos hden hg
  have hnum := Nat.div_add_mod num (den * g)
  have hrest := Nat.mod_lt num hd
  rw [roundTo]
  generalize den * g = d at *
  generalize num / d = q at *
  generalize num % d = r at *
  have hmq : m = q ∨ m = q + 1 := by
    rcases Nat.lt_trichotomy m q with h | h | h
    · have := Nat.mul_le_mul_left d h
      rw [Nat.mul_succ] at this
      omega
    · exact .inl h
    · by_contra hne
      have := Nat.mul_le_mul_left d (show q + 2 ≤ m by omega)
      rw [Nat.mul_add] at this
      omega
  refine congrArg (· * g) ?_
  rcases hmq with rfl | rfl
  · rw [if_neg]
    simp only [Bool.or_eq_true, decide_eq_true_eq, Bool.and_eq_true, beq_iff_eq]
    omega
  · rw [Nat.mul_succ] at *
    rw [if_pos]
    simp only [Bool.or_eq_true, decide_eq_true_eq, Bool.and_eq_true, beq_iff_eq]
    omega

variable {steps n k num den : Nat}

def grain (n : Nat) : Nat := 2 ^ surplus n

theorem grain_pos (n : Nat) : 0 < grain n := Nat.pow_pos (by decide)

theorem surplus_le (h : n < 2 ^ 53 * 2 ^ k) : surplus n ≤ k := by
  by_cases hn : n = 0
  · subst hn
    exact Nat.zero_le k
  · rw [← Nat.pow_add, ← Nat.log2_lt hn] at h
    unfold surplus
    omega

theorem surplus_eq (hlt : n < 2 ^ 53 * 2 ^ k) (hle : k = 0 ∨ 2 ^ 52 * 2 ^ k ≤ n) :
    surplus n = k := by
  refine Nat.le_antisymm (surplus_le hlt) ?_
  rcases hle with rfl | hle
  · exact Nat.zero_le _
  · have hn : n ≠ 0 := Nat.ne_of_gt (Nat.lt_of_lt_of_le (by positivity) hle)
    rw [← Nat.pow_add, ← Nat.le_log2 hn] at hle
    unfold surplus
    omega

theorem lt_grain (n : Nat) : n < 2 ^ 53 * grain n := by
  rw [grain, ← Nat.pow_add]
  refine Nat.lt_of_lt_of_le Nat.lt_log2_self (Nat.pow_le_pow_right (by decide) ?_)
  unfold surplus
  omega

theorem grain_le (h : 0 < surplus n) : 2 ^ 52 * grain n ≤ n := by
  have hn : n ≠ 0 := by
    rintro rfl
    exact absurd h (by decide)
  rw [grain, ← Nat.pow_add, ← Nat.le_log2 hn]
  unfold surplus at h ⊢
  omega

/-- Four times half the gap below a number. -/
def gapBelow (steps : Nat) : Nat :=
  if 0 < surplus steps ∧ steps = 2 ^ 52 * grain steps then grain steps else 2 * grain steps

theorem interval_eq (steps : Nat) : interval steps =
    ⟨4 * steps - gapBelow steps, 4 * steps + 2 * grain steps, steps / grain steps % 2 == 0⟩ := by
  have hiff : (1 < Nat.pow 2 (surplus steps) &&
      steps == Nat.pow 2 52 * Nat.pow 2 (surplus steps)) = true ↔
      0 < surplus steps ∧ steps = 2 ^ 52 * grain steps := by
    rw [Bool.and_eq_true, decide_eq_true_eq, beq_iff_eq, Nat.pow_eq,
      Nat.one_lt_two_pow_iff, Nat.pos_iff_ne_zero]
    rfl
  simp only [interval, gapBelow, hiff]
  rfl

theorem grain_le_self (h : steps ≠ 0) : grain steps ≤ steps := by
  rcases Nat.eq_zero_or_pos (surplus steps) with hzero | hpos
  · rw [grain, hzero]
    exact Nat.pos_of_ne_zero h
  · exact Nat.le_trans (Nat.le_mul_of_pos_left _ (by positivity)) (grain_le hpos)

theorem gapBelow_le (steps : Nat) : gapBelow steps ≤ 2 * grain steps := by
  unfold gapBelow
  split
  · omega
  · exact Nat.le_refl _

/-- The interval of a number as distances from it; an odd number has no part in the ends. -/
theorem holds_iff (hne : steps ≠ 0) : (interval steps).holds num den = true ↔
    if steps / grain steps % 2 = 0 then
      4 * (den * steps) ≤ 4 * num + den * gapBelow steps ∧
        4 * num ≤ 4 * (den * steps) + 2 * (den * grain steps)
    else
      4 * (den * steps) < 4 * num + den * gapBelow steps ∧
        4 * num < 4 * (den * steps) + 2 * (den * grain steps) := by
  have hgap : den * gapBelow steps ≤ 4 * (den * steps) := by
    have := Nat.mul_le_mul_left den (Nat.le_trans (gapBelow_le steps)
      (Nat.mul_le_mul_left 2 (grain_le_self hne)))
    rw [Nat.mul_left_comm] at this
    omega
  have hlow : (4 * steps - gapBelow steps) * den = 4 * (den * steps) - den * gapBelow steps := by
    rw [Nat.mul_comm, Nat.mul_sub, Nat.mul_left_comm]
  have hhigh : (4 * steps + 2 * grain steps) * den =
      4 * (den * steps) + 2 * (den * grain steps) := by
    ring
  rw [interval_eq, Interval.holds, hlow, hhigh]
  simp only [beq_iff_eq]
  split
  · simp only [Bool.and_eq_true, decide_eq_true_eq]
    omega
  · simp only [Bool.and_eq_true, decide_eq_true_eq]
    omega

theorem roundSteps_eq {g m : Nat} (hg : grain (num / den) = g) (hden : 0 < den)
    (hlow : 2 * (den * g * m) ≤ 2 * num + den * g) (hhigh : 2 * num ≤ 2 * (den * g * m) + den * g)
    (htie : m % 2 = 1 → 2 * (den * g * m) < 2 * num + den * g ∧
      2 * num < 2 * (den * g * m) + den * g) : roundSteps num den = m * g := by
  have hpos : 0 < g := hg ▸ grain_pos _
  have hround : roundSteps num den = roundTo (grain (num / den)) num den := rfl
  rw [hround, hg]
  exact roundTo_eq hpos hden hlow hhigh htie

/-- Just below a power of two the grain is half as wide, and the power is an even multiple of it. -/
theorem roundSteps_of_below (hpos : 0 < surplus steps) (hpower : steps = 2 ^ 52 * grain steps)
    (hden : 0 < den) (hlow : 4 * (den * steps) ≤ 4 * num + den * grain steps)
    (hbelow : num < den * steps) : roundSteps num den = steps := by
  obtain ⟨k, hk⟩ : ∃ k, surplus steps = k + 1 := ⟨surplus steps - 1, by omega⟩
  have hgrain : grain steps = 2 * 2 ^ k := by rw [grain, hk, Nat.pow_succ, Nat.mul_comm]
  have hsteps : steps = 2 ^ 53 * 2 ^ k := by omega
  have hunits : den * steps = 2 ^ 53 * (den * 2 ^ k) := by rw [hsteps, Nat.mul_left_comm]
  have hgap : den * grain steps = 2 * (den * 2 ^ k) := by rw [hgrain, Nat.mul_left_comm]
  have hsurplus : surplus (num / den) = k := by
    refine surplus_eq ?_ (.inr ?_)
    · rw [← hsteps, Nat.div_lt_iff_lt_mul hden, Nat.mul_comm]
      exact hbelow
    · rw [Nat.le_div_iff_mul_le hden, Nat.mul_assoc, Nat.mul_comm _ den]
      omega
  rw [roundSteps_eq (congrArg (2 ^ ·) hsurplus) hden (m := 2 ^ 53) (by omega) (by omega) (by omega),
    ← hsteps]

theorem grain_div_eq (hden : 0 < den) (hhigh : num < 2 ^ 53 * (den * grain steps))
    (hlow : 0 < surplus steps → 2 ^ 52 * (den * grain steps) ≤ num) :
    grain (num / den) = grain steps := by
  refine congrArg (2 ^ ·) (surplus_eq ?_ ((Nat.eq_zero_or_pos _).imp_right fun hpos => ?_))
  · rw [Nat.div_lt_iff_lt_mul hden, Nat.mul_assoc, Nat.mul_comm _ den]
    exact hhigh
  · rw [Nat.le_div_iff_mul_le hden, Nat.mul_assoc, Nat.mul_comm _ den]
    exact hlow hpos

theorem roundSteps_of_holds (hne : steps ≠ 0) (hdvd : grain steps ∣ steps) (hden : 0 < den)
    (h : (interval steps).holds num den = true) : roundSteps num den = steps := by
  have hbounds := (holds_iff hne).mp h
  have hlow : 4 * (den * steps) ≤ 4 * num + den * gapBelow steps := by
    split at hbounds <;> omega
  have hhigh : 4 * num ≤ 4 * (den * steps) + 2 * (den * grain steps) := by
    split at hbounds <;> omega
  have hgap := Nat.mul_le_mul_left den (gapBelow_le steps)
  rw [Nat.mul_left_comm] at hgap
  by_cases hbelow : (0 < surplus steps ∧ steps = 2 ^ 52 * grain steps) ∧ num < den * steps
  · obtain ⟨hpower, hlt⟩ := hbelow
    rw [gapBelow, if_pos hpower] at hlow
    exact roundSteps_of_below hpower.1 hpower.2 hden hlow hlt
  · obtain ⟨m, hm⟩ := hdvd
    have hquotient : steps / grain steps = m := Nat.div_eq_of_eq_mul_right (grain_pos steps) hm
    have hunits : den * steps = den * grain steps * m := by rw [Nat.mul_assoc, ← hm]
    have hgrain : 0 < den * grain steps := Nat.mul_pos hden (grain_pos steps)
    have hmlt : m < 2 ^ 53 := by
      rw [← hquotient, Nat.div_lt_iff_lt_mul (grain_pos steps)]
      exact lt_grain steps
    have hmost := Nat.mul_le_mul_left (den * grain steps) (show m ≤ 2 ^ 53 - 1 by omega)
    have hgrains : grain (num / den) = grain steps := by
      refine grain_div_eq hden (by omega) fun hpos => ?_
      have hleast : 2 ^ 52 ≤ m := by
        rw [← hquotient, Nat.le_div_iff_mul_le (grain_pos steps)]
        exact grain_le hpos
      by_cases hnum : num < den * steps
      · -- the number is no power of two, so a grain lies between it and the power below
        have hpower : m ≠ 2 ^ 52 := by
          rintro rfl
          exact hbelow ⟨⟨hpos, by rw [Nat.mul_comm]; exact hm⟩, hnum⟩
        have := Nat.mul_le_mul_left (den * grain steps) (show 2 ^ 52 + 1 ≤ m by omega)
        omega
      · have := Nat.mul_le_mul_left (den * grain steps) hleast
        omega
    have htie : m % 2 = 1 → 4 * (den * steps) < 4 * num + den * gapBelow steps ∧
        4 * num < 4 * (den * steps) + 2 * (den * grain steps) := by
      intro hodd
      rwa [hquotient, if_neg (by omega)] at hbounds
    have hround := roundSteps_eq hgrains hden (m := m) (by omega) (by omega) (by omega)
    rw [hround, Nat.mul_comm, ← hm]

theorem exists_roundSteps (num den : Nat) :
    ∃ m, m ≤ 2 ^ 53 ∧ roundSteps num den = m * grain (num / den) := by
  refine ⟨_, ?_, rfl⟩
  have hlt := lt_grain (num / den)
  rw [← Nat.div_lt_iff_lt_mul (grain_pos _), Nat.div_div_eq_div_mul] at hlt
  change num / (den * Nat.pow 2 (surplus (num / den))) < _ at hlt
  split
  · exact hlt
  · exact Nat.le_of_lt hlt

theorem grain_dvd_mul {m : Nat} (hm : m ≤ 2 ^ 53) (k : Nat) : grain (m * 2 ^ k) ∣ m * 2 ^ k := by
  rcases Nat.lt_or_eq_of_le hm with hlt | rfl
  · have hle : surplus (m * 2 ^ k) ≤ k :=
      surplus_le (Nat.mul_lt_mul_of_pos_right hlt (Nat.pow_pos (by decide)))
    exact Nat.dvd_trans (Nat.pow_dvd_pow 2 hle) (Nat.dvd_mul_left _ _)
  · have hle : surplus (2 ^ 53 * 2 ^ k) ≤ k + 1 := by
      refine surplus_le ?_
      have := Nat.pow_pos (show 0 < 2 by decide) (n := k)
      omega
    rw [grain, ← Nat.pow_add] at *
    exact Nat.pow_dvd_pow 2 (by omega)

theorem grain_dvd_roundSteps (num den : Nat) :
    grain (roundSteps num den) ∣ roundSteps num den := by
  obtain ⟨m, hm, hround⟩ := exists_roundSteps num den
  rw [hround]
  exact grain_dvd_mul hm (surplus (num / den))

theorem ofSteps_eq_finite {negative : Bool} (h : roundSteps num den < limit) :
    ofSteps negative num den = finite negative (roundSteps num den) := by
  unfold ofSteps
  exact if_pos h

theorem isDouble_of_ofSteps {negative : Bool} {x : Binary64} (hx : ofSteps negative num den = x) :
    x.IsDouble := by
  by_cases h : roundSteps num den < limit
  · rw [ofSteps_eq_finite h] at hx
    subst hx
    exact And.intro h (grain_dvd_roundSteps num den)
  · rw [ofSteps_eq_inf (Nat.le_of_not_lt h)] at hx
    subst hx
    exact trivial

end Microdata.Binary64
