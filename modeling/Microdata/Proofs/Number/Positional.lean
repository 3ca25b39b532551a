import Mathlib.Data.List.TakeWhile
import Microdata.Proofs.Number.Nearest
set_option autoImplicit false

namespace Microdata.Numeral

/-- The texts that spell a numeral plainly: digits, with a minus in front or without, and with a
point and further digits or without. -/
inductive Plain (negative : Bool) : List Char → Numeral → Prop
  | whole {whole : List Char} (hw : ∀ c ∈ whole, c.isDigit = true) (hne : whole ≠ []) :
      Plain negative (sign negative ++ whole) (.decimal negative (values whole) 0)
  | fraction {whole fraction : List Char} (hw : ∀ c ∈ whole, c.isDigit = true) (hne : whole ≠ [])
      (hf : ∀ c ∈ fraction, c.isDigit = true) (hfne : fraction ≠ []) :
      Plain negative (sign negative ++ (whole ++ '.' :: fraction))
        (.decimal negative (values whole ++ values fraction) (-fraction.length))

theorem Plain.read?_eq {negative : Bool} {cs : List Char} {m : Numeral}
    (h : Plain negative cs m) : read? (String.ofList cs) = some m := by
  cases h with
  | whole hw hne => exact read?_whole negative hw hne
  | fraction hw hne hf _ => exact read?_fraction negative hw hne hf

theorem values_lt {cs : List Char} (h : ∀ c ∈ cs, c.isDigit = true) : ∀ d ∈ values cs, d < 10 := by
  intro d hd
  obtain ⟨c, hc, rfl⟩ := List.mem_map.mp hd
  have := toNat_of_isDigit (h c hc)
  omega

theorem length_values (cs : List Char) : (values cs).length = cs.length := List.length_map _

theorem values_append (cs ds : List Char) : values (cs ++ ds) = values cs ++ values ds :=
  List.map_append

theorem ofDigits_append (as bs : List Nat) :
    ofDigits (as ++ bs) = ofDigits as * 10 ^ bs.length + ofDigits bs := by
  rw [ofDigits, List.foldl_append, foldl_digits]
  rfl

theorem ofDigits_zeros (k : Nat) : ofDigits (values (List.replicate k '0')) = 0 := by
  rw [ofDigits_values, Nat.ofDigitChars_replicate_zero, Nat.mul_zero]

theorem ofDigits_append_zeros (cs : List Char) (k : Nat) :
    ofDigits (values (cs ++ List.replicate k '0')) = 10 ^ k * ofDigits (values cs) := by
  rw [values_append, ofDigits_append, ofDigits_zeros, length_values, List.length_replicate,
    Nat.add_zero, Nat.mul_comm]

theorem ofDigits_zeros_append (cs : List Char) (k : Nat) :
    ofDigits (values (List.replicate k '0' ++ cs)) = ofDigits (values cs) := by
  rw [values_append, ofDigits_append, ofDigits_zeros, Nat.zero_mul, Nat.zero_add]

end Microdata.Numeral

namespace Microdata.Binary64

open Numeral

variable {ds : List Char} {point : Int}

def positioned (ds : List Char) (point : Int) : ℚ :=
  ofDigits (values ds) * 10 ^ (point - ds.length)

/-- A text of digits with a point among them that denotes a number. -/
def Denotes (text : List Char) (q : ℚ) : Prop :=
  ∃ whole fraction : List Char, text = whole ++ '.' :: fraction ∧
    (∀ c ∈ whole ++ fraction, c.isDigit = true) ∧ whole ≠ [] ∧ fraction ≠ [] ∧
    (ofDigits (values (whole ++ fraction)) : ℚ) * 10 ^ (-(fraction.length : ℤ)) = q

theorem isDigit_of_mem_zeros {k : Nat} : ∀ c ∈ List.replicate k '0', c.isDigit = true := by
  intro c hc
  rw [List.eq_of_mem_replicate hc]
  rfl

theorem denotes_zeros_front (hds : ∀ c ∈ ds, c.isDigit = true) (hne : ds ≠ []) (k : Nat) :
    Denotes ('0' :: '.' :: (List.replicate k '0' ++ ds)) (positioned ds (-k)) := by
  refine ⟨['0'], List.replicate k '0' ++ ds, rfl, ?_, by simp, by simp [hne], ?_⟩
  · intro c hc
    rcases List.mem_append.mp hc with hc | hc
    · exact isDigit_of_mem_zeros c (List.mem_replicate.mpr ⟨one_ne_zero, List.mem_singleton.mp hc⟩)
    · exact (List.mem_append.mp hc).elim (isDigit_of_mem_zeros c) (hds c)
  · have hfront : ['0'] ++ (List.replicate k '0' ++ ds) = List.replicate (k + 1) '0' ++ ds := rfl
    rw [hfront, ofDigits_zeros_append, positioned, List.length_append, List.length_replicate]
    congr 2
    omega

theorem denotes_zeros_behind (hds : ∀ c ∈ ds, c.isDigit = true) (hne : ds ≠ []) (k : Nat) :
    Denotes (ds ++ List.replicate k '0' ++ ['.', '0']) (positioned ds (ds.length + k)) := by
  refine ⟨ds ++ List.replicate k '0', ['0'], rfl, ?_, by simp [hne], by simp, ?_⟩
  · intro c hc
    rw [List.append_assoc] at hc
    rcases List.mem_append.mp hc with hc | hc
    · exact hds c hc
    · exact isDigit_of_mem_zeros c (by rwa [← List.replicate_succ'] at hc)
  · have hbehind : ds ++ List.replicate k '0' ++ ['0'] = ds ++ List.replicate (k + 1) '0' := by
      rw [List.append_assoc, ← List.replicate_succ']
    rw [hbehind, ofDigits_append_zeros, positioned, add_sub_cancel_left, zpow_natCast,
      List.length_singleton, Nat.cast_one, zpow_neg_one]
    push_cast
    ring

theorem denotes_cut (hds : ∀ c ∈ ds, c.isDigit = true) {n : Nat} (hpos : 0 < n)
    (hlt : n < ds.length) : Denotes (ds.take n ++ '.' :: ds.drop n) (positioned ds n) := by
  refine ⟨ds.take n, ds.drop n, rfl, ?_, ?_, ?_, ?_⟩
  · rwa [List.take_append_drop]
  · exact List.ne_nil_of_length_pos (by rw [List.length_take]; omega)
  · exact List.ne_nil_of_length_pos (by rw [List.length_drop]; omega)
  · rw [List.take_append_drop, positioned, List.length_drop]
    congr 2
    omega

theorem denotes_write {f : Format} (hds : ∀ c ∈ ds, c.isDigit = true) (hne : ds ≠ [])
    (hleast : f.least < point) (hmost : point ≤ f.most) :
    Denotes (f.write ds point) (positioned ds point) := by
  simp only [Format.write, hleast, hmost, decide_true, Bool.and_self, if_true]
  split
  · rename_i hneg
    obtain ⟨k, rfl⟩ : ∃ k : Nat, point = -k := ⟨(-point).toNat, by omega⟩
    rw [neg_neg, Int.toNat_natCast]
    exact denotes_zeros_front hds hne k
  · rename_i hpos
    obtain ⟨n, rfl⟩ : ∃ n : Nat, point = n := ⟨point.toNat, by omega⟩
    rw [Int.toNat_natCast]
    split
    · rename_i hle
      obtain ⟨k, rfl⟩ : ∃ k, n = ds.length + k := ⟨n - ds.length, by omega⟩
      rw [List.take_of_length_le hle, Nat.add_sub_cancel_left, Nat.cast_add]
      exact denotes_zeros_behind hds hne k
    · rename_i hlt
      rw [Nat.sub_eq_zero_of_le (by omega), List.replicate_zero, List.append_nil]
      exact denotes_cut hds (by omega) (by omega)

theorem exists_trimZeros (ds : List Char) :
    ∃ k, ds = trimZeros ds ++ List.replicate k '0' := by
  have hsplit := List.takeWhile_append_dropWhile (p := (· == '0')) (l := ds.reverse)
  have hzeros : ∀ c ∈ ds.reverse.takeWhile (· == '0'), c = '0' :=
    fun c hc => beq_iff_eq.mp (List.mem_takeWhile_imp (p := (· == '0')) hc)
  rw [List.eq_replicate_of_mem hzeros] at hsplit
  refine ⟨(ds.reverse.takeWhile (· == '0')).length, ?_⟩
  rw [trimZeros, ← List.reverse_replicate, ← List.reverse_append, hsplit, List.reverse_reverse]

theorem positioned_trimZeros (ds : List Char) (point : Int) :
    positioned (trimZeros ds) point = positioned ds point := by
  obtain ⟨k, hk⟩ := exists_trimZeros ds
  generalize trimZeros ds = trimmed at hk
  subst hk
  rw [positioned, positioned, ofDigits_append_zeros, List.length_append, List.length_replicate]
  have hpoint : point - trimmed.length = point - (trimmed.length + k : Nat) + k := by omega
  rw [hpoint, zpow_add_natCast]
  push_cast
  ring

theorem positioned_toDigits (n : Nat) (e : Int) :
    positioned (Nat.toDigits 10 n) (e + (Nat.toDigits 10 n).length) = n * 10 ^ e := by
  rw [positioned, ofDigits_values, Nat.ofDigitChars_ten_toDigits, add_sub_cancel_right]

variable {steps : Nat} {negative : Bool}

def shownDigits (steps : Nat) : List Char := trimZeros (Nat.toDigits 10 (shortest steps).1)

def shownPoint (steps : Nat) : Int :=
  (shortest steps).2 + (Nat.toDigits 10 (shortest steps).1).length

/-- The decimal that the text of a number denotes, without the sign. -/
def shown (steps : Nat) : ℚ := (shortest steps).1 * 10 ^ (shortest steps).2

theorem positioned_shown (steps : Nat) :
    positioned (shownDigits steps) (shownPoint steps) = shown steps := by
  rw [shownDigits, shownPoint, positioned_trimZeros, positioned_toDigits, shown]

theorem text_finite (hne : steps ≠ 0) : text (finite negative steps) = String.ofList
    (sign negative ++ plainFormat.write (shownDigits steps) (shownPoint steps)) := by
  have hzero : (steps == 0) = false := beq_eq_false_iff_ne.mpr hne
  simp only [text, hzero]
  cases negative <;> rfl

theorem shown_spec (hne : steps ≠ 0) : (interval steps).Contains (shown steps * unit) ∧
    (10 : ℚ) ^ (place steps - 1) ≤ shown steps ∧ shown steps ≤ 10 ^ place steps := by
  obtain ⟨n, e, hshortest, h⟩ := shortest_spec hne
  rw [shown, hshortest]
  exact h

theorem shown_pos (hne : steps ≠ 0) : 0 < shown steps :=
  (zpow_pos (by norm_num) _).trans_le (shown_spec hne).2.1

theorem shortest_ne_zero (hne : steps ≠ 0) : (shortest steps).1 ≠ 0 := by
  intro hzero
  have hpos := shown_pos hne
  rw [shown, hzero, Nat.cast_zero, zero_mul] at hpos
  exact lt_irrefl _ hpos

theorem shownPoint_spec (hne : steps ≠ 0) :
    (10 : ℚ) ^ (shownPoint steps - 1) ≤ shown steps ∧ shown steps < 10 ^ shownPoint steps := by
  have hle := pow_length_toDigits_le (shortest_ne_zero hne)
  have hlt := lt_pow_length_toDigits (shortest steps).1
  have hpos : (0 : ℚ) < 10 ^ (shortest steps).2 := zpow_pos (by norm_num) _
  rw [shown, shownPoint]
  generalize shortest steps = p at *
  have hlast : p.2 + (Nat.toDigits 10 p.1).length - 1 =
      p.2 + ((Nat.toDigits 10 p.1).length - 1 : Nat) := by
    have := Nat.length_toDigits_pos (b := 10) (n := p.1)
    omega
  rw [hlast, zpow_add_natCast, zpow_add_natCast]
  exact ⟨mul_le_mul_of_nonneg_right (Nat.cast_le.mpr hle) hpos.le,
    mul_lt_mul_of_pos_right (Nat.cast_lt.mpr hlt) hpos⟩

theorem isDigit_shownDigits : ∀ c ∈ shownDigits steps, c.isDigit = true := by
  intro c hc
  obtain ⟨k, hk⟩ := exists_trimZeros (Nat.toDigits 10 (shortest steps).1)
  have hmem : c ∈ Nat.toDigits 10 (shortest steps).1 := by
    rw [hk]
    exact List.mem_append_left _ hc
  exact Numeral.isDigit_of_mem_toDigits hmem

theorem shownDigits_ne_nil (hne : steps ≠ 0) : shownDigits steps ≠ [] := by
  intro hnil
  have hpos := shown_pos hne
  rw [← positioned_shown, hnil, positioned] at hpos
  simp [values, ofDigits] at hpos

theorem lt_of_zpow_lt {m n : Int} (h : (10 : ℚ) ^ m < 10 ^ n) : m < n :=
  (zpow_lt_zpow_iff_right₀ (by norm_num)).mp h

theorem ten_thousandth : (10 : ℚ) ^ (-4 : Int) = 1 / 10 ^ 4 := by
  norm_num

theorem neg_four_lt_shownPoint (h : unit ≤ 10 ^ 4 * steps) : -4 < shownPoint steps := by
  have hne : steps ≠ 0 := by
    rintro rfl
    exact absurd (Nat.le_zero.mp h) unit_ne_zero
  have hunit : (0 : ℚ) < unit := Nat.cast_pos.mpr unit_pos
  have hsteps : (unit : ℚ) ≤ 10 ^ 4 * steps := by exact_mod_cast h
  have hplace : -4 < place steps := by
    by_contra hle
    have hpow : (10 : ℚ) ^ place steps ≤ 10 ^ (-4 : Int) :=
      zpow_le_zpow_right₀ (by norm_num) (by omega)
    rw [ten_thousandth] at hpow
    have hmul := mul_le_mul_of_nonneg_right hpow hunit.le
    have hlt := (place_spec hne).2
    linarith
  have hpoint : place steps - 1 < shownPoint steps :=
    lt_of_zpow_lt ((shown_spec hne).2.1.trans_lt (shownPoint_spec hne).2)
  omega

/-- The point of a number that is less than a ten thousandth: the number that is nearest to a ten
thousandth is more than it. -/
theorem shownPoint_le (hne : steps ≠ 0) (hx : grain steps ∣ steps) (h : 10 ^ 4 * steps < unit) :
    shownPoint steps ≤ -4 := by
  have hunit : (0 : ℚ) < unit := Nat.cast_pos.mpr unit_pos
  have hsteps : (10 ^ 4 * steps : ℚ) < unit := by exact_mod_cast h
  obtain ⟨hcontains, -, hmost⟩ := shown_spec hne
  by_contra hgt
  have hplace : place steps ≤ -4 := by
    by_contra hlt
    have hpow : (10 : ℚ) ^ (-4 : Int) ≤ 10 ^ (place steps - 1) :=
      zpow_le_zpow_right₀ (by norm_num) (by omega)
    rw [ten_thousandth] at hpow
    have hmul := mul_le_mul_of_nonneg_right hpow hunit.le
    have hle := (place_spec hne).1
    linarith
  have hshown : shown steps = 1 / 10 ^ 4 := by
    rw [← ten_thousandth]
    refine le_antisymm (hmost.trans (zpow_le_zpow_right₀ (by norm_num) hplace)) ?_
    exact (zpow_le_zpow_right₀ (by norm_num) (by omega)).trans (shownPoint_spec hne).1
  have hquotient : 1 / 10 ^ 4 * (unit : ℚ) = (unit : ℚ) / (10 ^ 4 : Nat) := by
    push_cast
    ring
  rw [hshown, hquotient, ← Interval.holds_iff_contains (by decide)] at hcontains
  have hround : roundSteps unit (10 ^ 4) = steps :=
    roundSteps_of_holds hne hx (by decide) hcontains
  have hmore : unit ≤ 10 ^ 4 * roundSteps unit (10 ^ 4) := by decide +kernel
  rw [hround] at hmore
  omega

theorem shownPoint_le_sixteen (hx : grain steps ∣ steps) (h : ¬ unit ∣ steps) :
    shownPoint steps ≤ 16 := by
  have hne : steps ≠ 0 := fun hzero => h (hzero ▸ Nat.dvd_zero unit)
  have hunit : (0 : ℚ) < unit := Nat.cast_pos.mpr unit_pos
  obtain ⟨k, hk⟩ : ∃ k, unit = Nat.pow 2 k := by
    unfold unit
    exact ⟨_, Eq.refl _⟩
  rw [Nat.pow_eq] at hk
  have hsurplus : surplus steps < k := by
    by_contra hle
    rw [hk] at h
    exact h (Nat.dvd_trans (Nat.pow_dvd_pow 2 (Nat.le_of_not_lt hle)) hx)
  have hgrain : 2 * grain steps ≤ unit := by
    rw [hk, grain, Nat.mul_comm, ← Nat.pow_succ]
    exact Nat.pow_le_pow_right (by decide) hsurplus
  have hsteps : steps < 2 ^ 52 * unit := by
    have := lt_grain steps
    omega
  have hcast : (steps : ℚ) < 2 ^ 52 * unit := by exact_mod_cast hsteps
  have hmost := (bounds_of_contains hne (shown_spec hne).1).2
  have hlt : shown steps < 10 ^ (16 : Int) := by
    by_contra hge
    have hmul := mul_le_mul_of_nonneg_right (le_of_not_gt hge) hunit.le
    generalize (unit : ℚ) = u at *
    norm_num at hmul hcast
    linarith
  have hpoint := lt_of_zpow_lt ((shownPoint_spec hne).1.trans_lt hlt)
  omega

theorem exists_plain_text (hx : (finite negative steps).IsDouble) (hne : steps ≠ 0)
    (hleast : -4 < shownPoint steps) (hmost : shownPoint steps ≤ 16) :
    ∃ m, Plain negative (text (finite negative steps)).toList m ∧
      m.nearest = finite negative steps := by
  obtain ⟨whole, fraction, hwrite, hdigits, hwhole, hfraction, hvalue⟩ :=
    denotes_write (f := plainFormat) isDigit_shownDigits (shownDigits_ne_nil hne) hleast hmost
  rw [positioned_shown] at hvalue
  have hcontains := (shown_spec hne).1
  rw [← hvalue] at hcontains
  rw [text_finite hne, String.toList_ofList, hwrite]
  refine ⟨_, .fraction (fun c hc => hdigits c (List.mem_append_left _ hc)) hwhole
    (fun c hc => hdigits c (List.mem_append_right _ hc)) hfraction, ?_⟩
  rw [← values_append]
  exact nearest_of_contains (values_lt hdigits) hne hx hcontains

theorem mem_text_of_exponent (hne : steps ≠ 0) (hpoint : shownPoint steps ≤ -4) :
    'e' ∈ (text (finite negative steps)).toList := by
  have hleast : ¬ plainFormat.least < shownPoint steps := not_lt_of_ge hpoint
  rw [text_finite hne, String.toList_ofList]
  refine List.mem_append_right _ ?_
  simp only [Format.write, hleast, decide_false, Bool.false_and, Bool.false_eq_true, if_false]
  split
  · rename_i hnil
    exact absurd hnil (shownDigits_ne_nil hne)
  · simp
  · simp

end Microdata.Binary64
