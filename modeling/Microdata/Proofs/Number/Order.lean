import Microdata.Proofs.Number.Rounding
set_option autoImplicit false

/-!
Rounding and the order of numbers. Rounding keeps the order (`roundSteps_mono`), it moves a number
by no more than one part in 2^53 (`roundSteps_near`), and what has no more than 53 binary digits not
at all. Main statements, on integers as floating point numbers: `position_mono`, and
`coarse_of_ofInt?_eq`, two integers with one nearest number are large and close to each other.
-/

namespace Microdata.Binary64

variable {a b : Nat} {m n : Int} {x y : Binary64}

theorem roundTo_mono (grain : Nat) (h : a ≤ b) : roundTo grain a 1 ≤ roundTo grain b 1 := by
  have ha := Nat.div_add_mod a grain
  have hb := Nat.div_add_mod b grain
  simp only [roundTo, Nat.one_mul]
  refine Nat.mul_le_mul_right grain ?_
  rcases Nat.lt_or_eq_of_le (Nat.div_le_div_right (c := grain) h) with hlt | heq
  · split <;> split <;> omega
  · -- with one quotient, the order is that of the rests
    rw [heq] at ha ⊢
    have hrest : a % grain ≤ b % grain := by omega
    simp only [Bool.or_eq_true, decide_eq_true_eq, Bool.and_eq_true, beq_iff_eq]
    split <;> split <;> omega

theorem roundSteps_le (n : Nat) : roundSteps n 1 ≤ 2 ^ 53 * grain n := by
  obtain ⟨m, hm, hround⟩ := exists_roundSteps n 1
  rw [hround, Nat.div_one]
  exact Nat.mul_le_mul_right _ hm

theorem surplus_mono (h : a ≤ b) : surplus a ≤ surplus b :=
  surplus_le (Nat.lt_of_le_of_lt h (lt_grain b))

theorem roundSteps_one (n : Nat) : roundSteps n 1 = roundTo (grain n) n 1 := by
  rw [roundSteps, Nat.div_one]
  rfl

theorem roundSteps_mono (h : a ≤ b) : roundSteps a 1 ≤ roundSteps b 1 := by
  rcases Nat.lt_or_eq_of_le (surplus_mono h) with hlt | heq
  · have hgrain : 2 * grain a ≤ grain b := by
      rw [grain, ← Nat.pow_succ']
      exact Nat.pow_le_pow_right (by decide) hlt
    have hb := grain_le (Nat.zero_lt_of_lt hlt)
    have hpower : ∃ k, 2 ^ 53 * grain a = Nat.pow 2 k := ⟨_, (Nat.pow_add 2 53 (surplus a)).symm⟩
    exact Nat.le_trans (roundSteps_le a) (le_roundSteps hpower (by omega))
  · rw [roundSteps_one, roundSteps_one, grain, heq]
    exact roundTo_mono _ h

theorem roundTo_near {grain : Nat} (hg : 0 < grain) (n : Nat) :
    2 * n ≤ 2 * roundTo grain n 1 + grain ∧ 2 * roundTo grain n 1 ≤ 2 * n + grain := by
  have hn := Nat.div_add_mod n grain
  have hrest := Nat.mod_lt n hg
  simp only [roundTo, Nat.one_mul, Bool.or_eq_true, decide_eq_true_eq, Bool.and_eq_true, beq_iff_eq]
  split
  · rw [Nat.add_mul, Nat.one_mul, Nat.mul_comm _ grain]
    omega
  · rw [Nat.mul_comm _ grain]
    omega

theorem roundSteps_near (n : Nat) :
    2 ^ 53 * n ≤ 2 ^ 53 * roundSteps n 1 + n ∧ 2 ^ 53 * roundSteps n 1 ≤ 2 ^ 53 * n + n := by
  rcases Nat.eq_zero_or_pos (surplus n) with hzero | hpos
  · rw [roundSteps_of_dvd (by rw [hzero]; exact Nat.one_dvd n)]
    omega
  · have hnear := roundTo_near (grain_pos n) n
    have hgrain := grain_le hpos
    rw [roundSteps_one]
    omega

theorem roundSteps_unit (h : a ≤ 2 ^ 53) : roundSteps (a * unit) 1 = a * unit := by
  obtain ⟨k, hk⟩ : ∃ k, unit = Nat.pow 2 k := by
    unfold unit
    exact ⟨_, Eq.refl _⟩
  rw [hk]
  exact roundSteps_of_dvd (grain_dvd_mul h k)

/-- Two whole numbers that are rounded to one have more than 53 binary digits, and differ in the
last of them. -/
theorem coarse_of_roundSteps_eq (hlt : a < b)
    (h : roundSteps (a * unit) 1 = roundSteps (b * unit) 1) :
    2 ^ 53 ≤ a ∧ 2 ^ 53 * (b - a) ≤ a + b := by
  have hunit : 0 < unit := Nat.pos_of_ne_zero unit_ne_zero
  constructor
  · by_contra hsmall
    have hnext : roundSteps ((a + 1) * unit) 1 ≤ roundSteps (b * unit) 1 :=
      roundSteps_mono (Nat.mul_le_mul_right unit hlt)
    rw [roundSteps_unit (by omega), ← h, roundSteps_unit (by omega)] at hnext
    have := Nat.le_of_mul_le_mul_right hnext hunit
    omega
  · have ha := (roundSteps_near (a * unit)).2
    have hb := (roundSteps_near (b * unit)).1
    rw [h] at ha
    have hsum := Nat.le_trans hb (Nat.add_le_add_right ha _)
    have hboth : 2 ^ 53 * b * unit ≤ (2 ^ 53 * a + a + b) * unit := by
      rw [Nat.add_mul, Nat.add_mul, Nat.mul_assoc, Nat.mul_assoc]
      exact hsum
    have := Nat.le_of_mul_le_mul_right hboth hunit
    omega

theorem eq_finite_of_ofInt? (h : ofInt? n = some x) :
    x = finite (decide (n < 0)) (roundSteps (n.natAbs * unit) 1) := by
  unfold ofInt? ofSteps at h
  dsimp only at h
  split at h
  · exact (Option.some.inj h).symm
  · cases h

theorem position_eq_of_ofInt? (h : ofInt? n = some x) :
    x.position = if n < 0 then -(roundSteps (n.natAbs * unit) 1 : Int)
      else roundSteps (n.natAbs * unit) 1 := by
  rw [eq_finite_of_ofInt? h, position]
  simp only [decide_eq_true_eq]

theorem ne_nan_of_ofInt? (h : ofInt? n = some x) : x ≠ nan := by
  rw [eq_finite_of_ofInt? h]
  nofun

theorem position_mono (hm : ofInt? m = some x) (hn : ofInt? n = some y) (h : m ≤ n) :
    x.position ≤ y.position := by
  have hsteps {i j : Int} (hij : i.natAbs ≤ j.natAbs) :
      roundSteps (i.natAbs * unit) 1 ≤ roundSteps (j.natAbs * unit) 1 :=
    roundSteps_mono (Nat.mul_le_mul_right unit hij)
  rw [position_eq_of_ofInt? hm, position_eq_of_ofInt? hn]
  split <;> split
  · have := hsteps (i := n) (j := m) (by omega)
    omega
  · omega
  · omega
  · have := hsteps (i := m) (j := n) (by omega)
    omega

theorem position_inj (hm : ofInt? m = some x) (hn : ofInt? n = some y) :
    x.position = y.position ↔ x = y := by
  refine ⟨fun h => ?_, fun h => h ▸ rfl⟩
  have hpos {i : Int} (hi : i < 0) : 1 ≤ roundSteps (i.natAbs * unit) 1 :=
    le_roundSteps ⟨0, rfl⟩ (Nat.mul_pos (by omega) (Nat.pos_of_ne_zero unit_ne_zero))
  rw [position_eq_of_ofInt? hm, position_eq_of_ofInt? hn] at h
  have hboth : (m < 0 ↔ n < 0) ∧
      roundSteps (m.natAbs * unit) 1 = roundSteps (n.natAbs * unit) 1 := by
    split at h <;> split at h
    · omega
    · have := hpos ‹m < 0›
      omega
    · have := hpos ‹n < 0›
      omega
    · omega
  rw [eq_finite_of_ofInt? hm, eq_finite_of_ofInt? hn, decide_eq_decide.mpr hboth.1, hboth.2]

theorem eq_of_ofInt? (hm : ofInt? m = some x) (hn : ofInt? n = some y) :
    x.eq y = decide (x = y) := by
  rw [Bool.eq_iff_iff]
  simp [Binary64.eq, ne_nan_of_ofInt? hm, ne_nan_of_ofInt? hn, position_inj hm hn]

theorem lt_of_ofInt? (hm : ofInt? m = some x) (hn : ofInt? n = some y) :
    x.lt y = decide (m < n ∧ x ≠ y) := by
  have hposition : x.lt y = true ↔ x.position < y.position := by
    simp [Binary64.lt, ne_nan_of_ofInt? hm, ne_nan_of_ofInt? hn]
  rw [Bool.eq_iff_iff, decide_eq_true_eq, hposition, Ne, ← position_inj hm hn]
  constructor
  · intro hlt
    refine ⟨?_, by omega⟩
    by_contra hle
    have := position_mono hn hm (by omega)
    omega
  · rintro ⟨hlt, hne⟩
    have := position_mono hm hn (by omega)
    omega

theorem coarse_of_ofInt?_eq (hm : (ofInt? m).isSome) (h : ofInt? m = ofInt? n) (hne : m ≠ n) :
    2 ^ 53 ≤ m.natAbs ∧ 2 ^ 53 ≤ n.natAbs ∧ 2 ^ 53 * (m - n).natAbs ≤ m.natAbs + n.natAbs := by
  obtain ⟨x, hx⟩ := Option.isSome_iff_exists.mp hm
  have hboth := (eq_finite_of_ofInt? hx).symm.trans (eq_finite_of_ofInt? (h ▸ hx))
  obtain ⟨hsign, hsteps⟩ := finite.inj hboth
  have hsign : m < 0 ↔ n < 0 := decide_eq_decide.mp hsign
  rcases Nat.lt_trichotomy m.natAbs n.natAbs with hlt | heq | hgt
  · have := coarse_of_roundSteps_eq hlt hsteps
    omega
  · omega
  · have := coarse_of_roundSteps_eq hgt hsteps.symm
    omega

end Microdata.Binary64
