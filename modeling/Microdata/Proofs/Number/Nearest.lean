import Microdata.Proofs.Number.Shortest
set_option autoImplicit false

/-!
Decimals of any length as numbers. The size of a decimal is told from the number of its digits
without its leading zeros, so a decimal near a number is neither too small nor too large for its
powers of ten to be looked at. Main statement: `nearest_of_contains`, a decimal in the interval of a
number is read as that number.
-/

namespace Microdata.Numeral

variable {steps : Nat} {e : Int}

theorem foldl_digits (ds : List Nat) (n : Nat) :
    ds.foldl (fun n d => 10 * n + d) n = n * 10 ^ ds.length + ofDigits ds := by
  induction ds generalizing n with
  | nil => simp [ofDigits]
  | cons d ds ih =>
    rw [ofDigits, List.foldl_cons, List.foldl_cons, ih, ih (10 * 0 + d), List.length_cons]
    ring

theorem ofDigits_cons (d : Nat) (ds : List Nat) :
    ofDigits (d :: ds) = d * 10 ^ ds.length + ofDigits ds := by
  rw [ofDigits, List.foldl_cons, foldl_digits, Nat.mul_zero, Nat.zero_add]

theorem ofDigits_lt {ds : List Nat} (h : ∀ d ∈ ds, d < 10) : ofDigits ds < 10 ^ ds.length := by
  induction ds with
  | nil => exact Nat.one_pos
  | cons d ds ih =>
    have hds := ih fun d hd => h d (List.mem_cons_of_mem _ hd)
    have hd := Nat.mul_le_mul_right (10 ^ ds.length)
      (Nat.le_of_lt_succ (h d (List.mem_cons_self ..)))
    rw [ofDigits_cons, List.length_cons, Nat.pow_succ]
    omega

theorem value_bounds {d : Nat} {ds : List Nat} (h : ∀ x ∈ d :: ds, x < 10) (hd : d ≠ 0) (e : Int) :
    (10 : ℚ) ^ (e + (d :: ds).length - 1) ≤ ofDigits (d :: ds) * 10 ^ e ∧
      (ofDigits (d :: ds) : ℚ) * 10 ^ e < 10 ^ (e + (d :: ds).length) := by
  have hlow : 10 ^ ds.length ≤ ofDigits (d :: ds) := by
    rw [ofDigits_cons]
    exact Nat.le_add_right_of_le (Nat.le_mul_of_pos_left _ (Nat.pos_of_ne_zero hd))
  have hhigh := ofDigits_lt h
  have hpos : (0 : ℚ) < 10 ^ e := zpow_pos (by norm_num) e
  rw [List.length_cons, Nat.cast_succ, ← add_assoc, add_sub_cancel_right, add_assoc,
    ← Nat.cast_succ, Binary64.zpow_add_natCast, Binary64.zpow_add_natCast]
  exact ⟨mul_le_mul_of_nonneg_right (Nat.cast_le.mpr hlow) hpos.le,
    mul_lt_mul_of_pos_right (Nat.cast_lt.mpr hhigh) hpos⟩

end Microdata.Numeral

namespace Microdata.Binary64

variable {steps : Nat} {q : ℚ}

/-- What lies in the interval of a number is at least half of it and at most half as much again. -/
theorem bounds_of_contains (hne : steps ≠ 0) (h : (interval steps).Contains q) :
    (steps : ℚ) ≤ 2 * q ∧ 2 * q ≤ 3 * steps := by
  have hgap := gapBelow_le steps
  have hgrain := grain_le_self hne
  have hlow : 2 * steps ≤ 4 * steps - gapBelow steps := by omega
  have hhigh : 4 * steps + 2 * grain steps ≤ 6 * steps := by omega
  have hlow : (2 * steps : ℚ) ≤ (4 * steps - gapBelow steps : Nat) := by exact_mod_cast hlow
  have hhigh : ((4 * steps + 2 * grain steps : Nat) : ℚ) ≤ 6 * steps := by exact_mod_cast hhigh
  rw [interval_eq, Interval.Contains] at h
  have hin : ((4 * steps - gapBelow steps : Nat) : ℚ) ≤ 4 * q ∧
      4 * q ≤ (4 * steps + 2 * grain steps : Nat) := by
    split at h
    · exact h
    · exact ⟨h.1.le, h.2.le⟩
  constructor
  · linarith
  · linarith

end Microdata.Binary64

namespace Microdata.Numeral

open Binary64

variable {steps : Nat} {e : Int}

theorem nearest_eq {negative : Bool} {digits : List Nat} {d : Nat} {ds : List Nat}
    (hds : digits.dropWhile (· == 0) = d :: ds) (hlow : -400 ≤ e + (d :: ds).length)
    (hhigh : e + (d :: ds).length ≤ 400) : nearest (decimal negative digits e) =
      ofSteps negative (ofDigits digits * (grid e).1) (grid e).2 := by
  have hdigits : ofDigits (d :: ds) = ofDigits digits := by rw [← hds, ofDigits_dropWhile]
  simp only [nearest, hds, hdigits]
  rw [if_neg (by simpa using hlow), if_neg (by omega)]
  cases e with
  | ofNat e => simp only [grid, Nat.mul_assoc]
  | negSucc e => simp only [grid]

theorem size_bounds {q : ℚ} {size : Int} (hne : steps ≠ 0) (hlt : steps < limit)
    (h : (interval steps).Contains (q * unit)) (hle : (10 : ℚ) ^ (size - 1) ≤ q)
    (hsize : q < 10 ^ size) : -400 ≤ size ∧ size ≤ 400 := by
  obtain ⟨hleast, hmost⟩ := bounds_of_contains hne h
  have hunit : (0 : ℚ) < unit := Nat.cast_pos.mpr unit_pos
  have hone : (1 : ℚ) ≤ steps := by exact_mod_cast Nat.pos_of_ne_zero hne
  have hlimit : (steps : ℚ) < limit := Nat.cast_lt.mpr hlt
  constructor
  · by_contra hsmall
    have hpow : (10 : ℚ) ^ size ≤ ((10 : ℚ) ^ 401)⁻¹ := by
      rw [← zpow_natCast, ← zpow_neg]
      exact zpow_le_zpow_right₀ (by norm_num) (by omega)
    have htiny : 2 * (((10 : ℚ) ^ 401)⁻¹ * unit) ≤ 1 := by
      have hle : 2 * unit ≤ 10 ^ 401 := by decide +kernel
      rw [mul_left_comm, inv_mul_le_iff₀ (by positivity), mul_one]
      exact_mod_cast hle
    generalize ((10 : ℚ) ^ 401)⁻¹ = tiny at hpow htiny
    have hsteps : q * unit < tiny * unit := mul_lt_mul_of_pos_right (hsize.trans_le hpow) hunit
    linarith
  · by_contra hlarge
    have hpow : (10 : ℚ) ^ 400 ≤ 10 ^ (size - 1) := by
      rw [← zpow_natCast]
      exact zpow_le_zpow_right₀ (by norm_num) (by omega)
    have hhuge : (3 * limit : ℚ) ≤ 2 * (10 ^ 400 * unit) := by
      have hle : 3 * limit ≤ 2 * (10 ^ 400 * unit) := by decide +kernel
      exact_mod_cast hle
    generalize (10 : ℚ) ^ 400 = huge at hpow hhuge
    have hsteps : huge * unit ≤ q * unit := mul_le_mul_of_nonneg_right (hpow.trans hle) hunit.le
    linarith

theorem nearest_of_contains {negative : Bool} {digits : List Nat} (hdigits : ∀ d ∈ digits, d < 10)
    (hne : steps ≠ 0) (hx : (finite negative steps).IsDouble)
    (h : (interval steps).Contains (ofDigits digits * 10 ^ e * unit)) :
    nearest (decimal negative digits e) = .finite negative steps := by
  have hround : roundSteps (ofDigits digits * (grid e).1) (grid e).2 = steps := by
    refine roundSteps_of_holds hne hx.2 (grid_pos e).2 ?_
    rw [Interval.holds_iff_contains (grid_pos e).2, grid_div]
    exact h
  cases hds : digits.dropWhile (· == 0) with
  | nil =>
    have hzero : ofDigits digits = 0 := by rw [← ofDigits_dropWhile, hds, ofDigits, List.foldl_nil]
    rw [hzero] at h
    have hsteps := (bounds_of_contains hne h).1
    rw [Nat.cast_zero, zero_mul, zero_mul, mul_zero] at hsteps
    exact absurd (Nat.cast_eq_zero.mp (hsteps.antisymm (Nat.cast_nonneg steps))) hne
  | cons d ds =>
    have hd : d ≠ 0 := by
      have hhead := List.head?_dropWhile_not (· == 0) digits
      rw [hds, List.head?_cons] at hhead
      simpa using hhead
    have hdigits' : ∀ x ∈ d :: ds, x < 10 := fun x hx => hdigits x (by
      rw [← hds] at hx
      exact (List.dropWhile_sublist _).mem hx)
    have hvalue := value_bounds hdigits' hd e
    rw [← hds, ofDigits_dropWhile, hds] at hvalue
    obtain ⟨hlow, hhigh⟩ := size_bounds hne hx.1 h hvalue.1 hvalue.2
    rw [nearest_eq hds hlow hhigh, ofSteps_eq_finite (by rw [hround]; exact hx.1), hround]

end Microdata.Numeral
