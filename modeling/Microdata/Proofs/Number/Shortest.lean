import Mathlib.Data.Rat.Cast.Order
import Mathlib.Tactic.Positivity
import Microdata.Proofs.Number.Rounding
set_option autoImplicit false

/-!
The fewest decimal digits of a number. On a grid of decimals that is fine enough, one of the two
neighbours of a number lies in its interval, so the search over the grids comes to an end at
seventeen digits at the latest. Main statement: `shortest_spec`, the decimal that is found lies in
the interval of the number and between the same powers of ten.
-/

namespace Microdata.Binary64

variable {steps n num den : Nat}

def Interval.Contains (i : Interval) (q : ℚ) : Prop :=
  if i.closed then i.low ≤ 4 * q ∧ 4 * q ≤ i.high else i.low < 4 * q ∧ 4 * q < i.high

theorem Interval.holds_iff_contains {i : Interval} (hden : 0 < den) :
    i.holds num den = true ↔ i.Contains (num / den) := by
  have hden' : (0 : ℚ) < den := Nat.cast_pos.mpr hden
  have hmul : 4 * ((num : ℚ) / den) = (4 * num : ℕ) / den := by
    push_cast
    ring
  rw [holds, Contains, hmul, le_div_iff₀ hden', div_le_iff₀ hden', lt_div_iff₀ hden',
    div_lt_iff₀ hden']
  split
  · rw [Bool.and_eq_true, decide_eq_true_eq, decide_eq_true_eq]
    norm_cast
  · rw [Bool.and_eq_true, decide_eq_true_eq, decide_eq_true_eq]
    norm_cast

theorem unit_pos : 0 < unit := Nat.pos_of_ne_zero unit_ne_zero

theorem pow_length_toDigits_le (h : n ≠ 0) : 10 ^ ((Nat.toDigits 10 n).length - 1) ≤ n := by
  by_cases hone : (Nat.toDigits 10 n).length - 1 = 0
  · rw [hone]
    exact Nat.pos_of_ne_zero h
  · have hiff := Nat.length_toDigits_le_iff (n := n) (show 1 < 10 by decide)
      (Nat.pos_of_ne_zero hone)
    by_contra hlt
    have := hiff.mpr (Nat.lt_of_not_le hlt)
    omega

theorem lt_pow_length_toDigits (n : Nat) : n < 10 ^ (Nat.toDigits 10 n).length :=
  (Nat.length_toDigits_le_iff (by decide) Nat.length_toDigits_pos).mp (Nat.le_refl _)

theorem exists_placeBelow {fuel scaled : Nat} (hlt : scaled < unit)
    (hfuel : unit ≤ 10 ^ (fuel + 1) * scaled) (n : Nat) : ∃ m : Nat,
      place.placeBelow fuel scaled n = -((n + m : Nat) : Int) ∧ 10 ^ m * scaled < unit ∧
        unit ≤ 10 ^ (m + 1) * scaled := by
  induction fuel generalizing scaled n with
  | zero => exact ⟨0, rfl, by simpa using hlt, hfuel⟩
  | succ fuel ih =>
    rw [place.placeBelow]
    split
    · rename_i hle
      exact ⟨0, rfl, by simpa using hlt, by simpa using hle⟩
    · rename_i hle
      rw [Nat.pow_succ, Nat.mul_assoc] at hfuel
      obtain ⟨m, hm, hbelow, habove⟩ := ih (Nat.lt_of_not_le hle) hfuel (n + 1)
      rw [← Nat.mul_assoc, ← Nat.pow_succ] at hbelow habove
      exact ⟨m + 1, by rw [hm]; congr 2; omega, hbelow, habove⟩

theorem zpow_add_natCast (e : ℤ) (k : Nat) : (10 : ℚ) ^ (e + k) = (10 ^ k : Nat) * 10 ^ e := by
  rw [zpow_add₀ (by norm_num), zpow_natCast, mul_comm]
  norm_cast

theorem zpow_neg_pred (m : Nat) : (10 : ℚ) ^ (-(m : ℤ) - 1) = ((10 : ℚ) ^ (m + 1))⁻¹ := by
  rw [← zpow_natCast, ← zpow_neg]
  congr 1
  omega

theorem place_spec (h : steps ≠ 0) : (10 : ℚ) ^ (place steps - 1) * unit ≤ steps ∧
    (steps : ℚ) < 10 ^ place steps * unit := by
  simp only [place]
  split
  · rename_i hzero
    have hlt : steps < unit := (Nat.div_eq_zero_iff_lt unit_pos).mp (beq_iff_eq.mp hzero)
    have hfuel : unit ≤ 10 ^ (330 + 1) * steps := by
      have hpow : unit ≤ 10 ^ (330 + 1) := by decide +kernel
      exact Nat.le_trans hpow (Nat.le_mul_of_pos_right _ (Nat.pos_of_ne_zero h))
    obtain ⟨m, hm, hbelow, habove⟩ := exists_placeBelow hlt hfuel 0
    rw [Nat.zero_add] at hm
    rw [hm, zpow_neg_pred, zpow_neg, zpow_natCast]
    constructor
    · rw [inv_mul_le_iff₀ (by positivity)]
      exact_mod_cast habove
    · rw [lt_inv_mul_iff₀ (by positivity)]
      exact_mod_cast hbelow
  · rename_i hwhole
    have hne : steps / unit ≠ 0 := by simpa using hwhole
    obtain ⟨l, hl⟩ : ∃ l, (Nat.toDigits 10 (steps / unit)).length = l + 1 :=
      ⟨_, (Nat.succ_pred_eq_of_pos Nat.length_toDigits_pos).symm⟩
    have hle := pow_length_toDigits_le hne
    have hlt := lt_pow_length_toDigits (steps / unit)
    rw [hl] at hle hlt ⊢
    rw [Nat.le_div_iff_mul_le unit_pos] at hle
    rw [Nat.div_lt_iff_lt_mul unit_pos] at hlt
    rw [Nat.cast_succ, add_sub_cancel_right, ← Nat.cast_succ, zpow_natCast, zpow_natCast]
    exact ⟨by exact_mod_cast hle, by exact_mod_cast hlt⟩

theorem grid_pos (e : Int) : 0 < (grid e).1 ∧ 0 < (grid e).2 := by
  cases e with
  | ofNat e => exact ⟨Nat.mul_pos (Nat.pow_pos (by decide)) unit_pos, Nat.one_pos⟩
  | negSucc e =>
    simp only [grid]
    exact And.intro unit_pos (Nat.pow_pos (by decide))

theorem grid_eq (e : Int) : ((grid e).1 : ℚ) = 10 ^ e * unit * (grid e).2 := by
  cases e with
  | ofNat e =>
    simp only [grid]
    rw [Int.ofNat_eq_natCast, zpow_natCast, Nat.cast_mul, Nat.pow_eq, Nat.cast_pow, Nat.cast_one,
      mul_one]
    rfl
  | negSucc e =>
    have hpow : ((10 : ℚ) ^ (e + 1)) ≠ 0 := pow_ne_zero _ (by norm_num)
    simp only [grid]
    rw [zpow_negSucc, Nat.pow_eq, Nat.cast_pow, Nat.cast_ofNat, mul_right_comm,
      inv_mul_cancel₀ hpow, one_mul]

theorem grid_div (n : Nat) (e : Int) :
    ((n * (grid e).1 : Nat) : ℚ) / (grid e).2 = n * 10 ^ e * unit := by
  have hden : ((grid e).2 : ℚ) ≠ 0 := Nat.cast_ne_zero.mpr (grid_pos e).2.ne'
  rw [Nat.cast_mul, grid_eq, ← mul_assoc, mul_div_cancel_right₀ _ hden, ← mul_assoc]

def lower (steps : Nat) (e : Int) : Nat := steps * (grid e).2 / (grid e).1

def nearer (steps : Nat) (e : Int) : Nat :=
  let rest := steps * (grid e).2 % (grid e).1
  if 2 * rest < (grid e).1 || (2 * rest == (grid e).1 && lower steps e % 2 == 0) then lower steps e
  else lower steps e + 1

def farther (steps : Nat) (e : Int) : Nat :=
  if nearer steps e == lower steps e then lower steps e + 1 else lower steps e

variable {i : Interval} {e : Int}

theorem onGrid?_eq (steps : Nat) (i : Interval) (e : Int) : onGrid? steps i e =
    if i.holds (nearer steps e * (grid e).1) (grid e).2 then some (nearer steps e)
    else if i.holds (farther steps e * (grid e).1) (grid e).2 then some (farther steps e)
    else none := by
  rfl

theorem lower_le_nearer (steps : Nat) (e : Int) :
    lower steps e ≤ nearer steps e ∧ nearer steps e ≤ lower steps e + 1 := by
  simp only [nearer]
  split <;> omega

theorem lower_le_farther (steps : Nat) (e : Int) :
    lower steps e ≤ farther steps e ∧ farther steps e ≤ lower steps e + 1 := by
  unfold farther
  split <;> omega

theorem nearer_bounds (steps : Nat) (e : Int) :
    2 * (nearer steps e * (grid e).1) ≤ 2 * (steps * (grid e).2) + (grid e).1 ∧
      2 * (steps * (grid e).2) ≤ 2 * (nearer steps e * (grid e).1) + (grid e).1 := by
  have hvalue := Nat.div_add_mod' (steps * (grid e).2) (grid e).1
  have hrest := Nat.mod_lt (steps * (grid e).2) (grid_pos e).1
  rw [← lower] at hvalue
  simp only [nearer]
  split
  · rename_i h
    simp only [Bool.or_eq_true, decide_eq_true_eq, Bool.and_eq_true, beq_iff_eq] at h
    omega
  · rename_i h
    simp only [Bool.or_eq_true, decide_eq_true_eq, Bool.and_eq_true, beq_iff_eq] at h
    rw [Nat.add_one_mul (lower steps e)]
    omega

theorem of_onGrid? (h : onGrid? steps i e = some n) : i.Contains (n * 10 ^ e * unit) ∧
    lower steps e ≤ n ∧ n ≤ lower steps e + 1 := by
  have hcontains {n : Nat} (hn : i.holds (n * (grid e).1) (grid e).2 = true) :
      i.Contains (n * 10 ^ e * unit) := by
    rw [← grid_div, ← Interval.holds_iff_contains (grid_pos e).2]
    exact hn
  rw [onGrid?_eq] at h
  split at h
  · rename_i hn
    cases h
    exact ⟨hcontains hn, lower_le_nearer steps e⟩
  · split at h
    · rename_i hn
      cases h
      exact ⟨hcontains hn, lower_le_farther steps e⟩
    · cases h

theorem isSome_onGrid? (h : i.holds (nearer steps e * (grid e).1) (grid e).2 = true) :
    (onGrid? steps i e).isSome = true := by
  rw [onGrid?_eq]
  simp only [h, if_true, Option.isSome_some]

theorem search_spec {p : Int} {more width : Nat}
    (h : ∃ w, width ≤ w ∧ w < width + more ∧ (onGrid? steps i (p - w)).isSome = true) :
    ∃ w n, width ≤ w ∧ onGrid? steps i (p - w) = some n ∧
      shortest.search steps i p more width = (n, p - w) := by
  induction more generalizing width with
  | zero =>
    obtain ⟨w, hle, hlt, -⟩ := h
    omega
  | succ more ih =>
    rw [shortest.search]
    split
    · rename_i n hn
      exact ⟨width, n, Nat.le_refl _, hn, rfl⟩
    · rename_i hnone
      obtain ⟨w, hle, hlt, hsome⟩ := h
      have hne : w ≠ width := by
        rintro rfl
        rw [hnone] at hsome
        cases hsome
      have hlater : ∃ w, width + 1 ≤ w ∧ w < width + 1 + more ∧
          (onGrid? steps i (p - w)).isSome = true := ⟨w, by omega, by omega, hsome⟩
      obtain ⟨w', n, hle', hn, hsearch⟩ := ih hlater
      exact ⟨w', n, by omega, hn, hsearch⟩

theorem grid_bounds (h : steps ≠ 0) (digits : Nat) :
    let g := grid (place steps - (digits + 1 : Nat))
    10 ^ digits * g.1 ≤ steps * g.2 ∧ steps * g.2 < 10 ^ (digits + 1) * g.1 := by
  intro g
  obtain ⟨hle, hlt⟩ := place_spec h
  have hden : (0 : ℚ) < g.2 := Nat.cast_pos.mpr (grid_pos _).2
  have hpow (k : Nat) : ((10 ^ k * g.1 : Nat) : ℚ) =
      10 ^ (place steps - (digits + 1 : Nat) + k) * unit * g.2 := by
    rw [zpow_add_natCast, Nat.cast_mul, grid_eq]
    ring
  constructor
  · have hcast : ((10 ^ digits * g.1 : Nat) : ℚ) ≤ (steps * g.2 : Nat) := by
      rw [hpow, show place steps - (digits + 1 : Nat) + digits = place steps - 1 by omega,
        Nat.cast_mul]
      exact mul_le_mul_of_nonneg_right hle hden.le
    exact_mod_cast hcast
  · have hcast : ((steps * g.2 : Nat) : ℚ) < (10 ^ (digits + 1) * g.1 : Nat) := by
      rw [hpow, sub_add_cancel, Nat.cast_mul]
      exact mul_lt_mul_of_pos_right hlt hden
    exact_mod_cast hcast

/-- Seventeen digits are enough: the grid is finer than the gaps around the number. -/
theorem isSome_onGrid?_seventeen (h : steps ≠ 0) :
    (onGrid? steps (interval steps) (place steps - (17 : Nat))).isSome = true := by
  obtain ⟨hfine, -⟩ := grid_bounds h 16
  obtain ⟨hlow, hhigh⟩ := nearer_bounds steps (place steps - (17 : Nat))
  have hden := (grid_pos (place steps - (17 : Nat))).2
  refine isSome_onGrid? ((holds_iff h).mpr ?_)
  simp only [Nat.reduceAdd] at hfine
  generalize grid (place steps - (17 : Nat)) = g at *
  have hmost : g.2 * steps < 2 ^ 53 * (g.2 * grain steps) := by
    rw [Nat.mul_left_comm]
    exact Nat.mul_lt_mul_of_pos_left (lt_grain steps) hden
  rw [Nat.mul_comm steps] at hfine hlow hhigh
  have hstrict : 4 * (g.2 * steps) < 4 * (nearer steps (place steps - (17 : Nat)) * g.1) +
      g.2 * gapBelow steps := by
    unfold gapBelow
    split
    · rename_i hpower
      have hsteps : g.2 * steps = 2 ^ 52 * (g.2 * grain steps) := by
        rw [Nat.mul_left_comm, ← hpower.2]
      omega
    · rw [Nat.mul_left_comm g.2 2]
      omega
  split <;> omega

/-- The digits of a number stand for a decimal in its interval, which lies between the same powers
of ten. -/
theorem shortest_spec (h : steps ≠ 0) : ∃ n e, shortest steps = (n, e) ∧
    (interval steps).Contains (n * 10 ^ e * unit) ∧
      (10 : ℚ) ^ (place steps - 1) ≤ n * 10 ^ e ∧ (n : ℚ) * 10 ^ e ≤ 10 ^ place steps := by
  have hsome : ∃ w, 1 ≤ w ∧ w < 1 + 17 ∧
      (onGrid? steps (interval steps) (place steps - (w : Nat))).isSome = true :=
    ⟨17, by decide, by decide, isSome_onGrid?_seventeen h⟩
  obtain ⟨w, n, hw, hn, hsearch⟩ := search_spec hsome
  obtain ⟨digits, rfl⟩ : ∃ digits, w = digits + 1 := ⟨w - 1, by omega⟩
  obtain ⟨hcontains, hleast, hmost⟩ := of_onGrid? hn
  obtain ⟨hle, hlt⟩ := grid_bounds h digits
  have hle : 10 ^ digits ≤ lower steps (place steps - (digits + 1 : Nat)) :=
    (Nat.le_div_iff_mul_le (grid_pos _).1).mpr hle
  have hlt : lower steps (place steps - (digits + 1 : Nat)) < 10 ^ (digits + 1) :=
    (Nat.div_lt_iff_lt_mul (grid_pos _).1).mpr hlt
  have hpos : (0 : ℚ) ≤ 10 ^ (place steps - (digits + 1 : Nat)) :=
    zpow_nonneg (by norm_num) _
  refine ⟨n, _, hsearch, hcontains, ?_, ?_⟩
  · rw [show place steps - 1 = place steps - (digits + 1 : Nat) + digits by omega,
      zpow_add_natCast]
    exact mul_le_mul_of_nonneg_right (Nat.cast_le.mpr (Nat.le_trans hle hleast)) hpos
  · calc (n : ℚ) * 10 ^ (place steps - (digits + 1 : Nat))
        ≤ (10 ^ (digits + 1) : Nat) * 10 ^ (place steps - (digits + 1 : Nat)) :=
          mul_le_mul_of_nonneg_right (Nat.cast_le.mpr (by omega)) hpos
      _ = 10 ^ place steps := by
          rw [← zpow_add_natCast, sub_add_cancel]

end Microdata.Binary64
