import Microdata.Text.Blank
import Microdata.Text.Lowercase
set_option autoImplicit false

namespace Microdata.Text

structure IsSettled (c : Char) : Prop where
  dotted : c ≠ 'İ'
  sigma : c ≠ 'Σ'
  small_eq : small c = c

instance (c : Char) : Decidable (IsSettled c) :=
  decidable_of_iff (c ≠ 'İ' ∧ c ≠ 'Σ' ∧ small c = c)
    ⟨fun h => ⟨h.1, h.2.1, h.2.2⟩, fun h => ⟨h.dotted, h.sigma, h.small_eq⟩⟩

def isFolded (c : Char) : Bool := 97 ≤ c.toNat && !isBlank c

theorem ne_of_isFolded {c d : Char} (h : isFolded c = true) (hd : d.toNat < 97) : c ≠ d := by
  rintro rfl
  have hle : 97 ≤ c.toNat := of_decide_eq_true (Bool.and_eq_true_iff.mp h).1
  omega

theorem isBlank_of_isFolded {c : Char} (h : isFolded c = true) : isBlank c = false := by
  simpa using (Bool.and_eq_true_iff.mp h).2

def lastSmall (run : Nat × Nat × Nat × Nat) : Nat := run.2.2.2 + (run.2.1 - run.1)

/-- Whether no small letter of the first run is a capital of the second: they lie apart, or one has
the odd and the other the even places. -/
def apart (run other : Nat × Nat × Nat × Nat) : Bool :=
  Nat.blt other.2.1 run.2.2.2 || (Nat.blt (lastSmall run) other.1 ||
    (Nat.beq other.2.2.1 2 && (Nat.beq ((run.2.2.2 + other.1) % 2) 1 &&
      (Nat.beq run.2.2.1 2 || Nat.beq run.1 run.2.1))))

theorem capitals_apart : capitals.all (fun run => capitals.all (apart run)) = true := by
  decide +kernel

/-- The blanks outside ASCII, and the two capitals whose lower case is not a small letter alone. -/
def strangers : List Nat :=
  [0x85, 0xA0, 'İ'.toNat, 'Σ'.toNat, 0x1680, 0x2028, 0x2029, 0x202F, 0x205F, 0x3000] ++
    List.range' 0x2000 11

/-- The small letters of a run are letters: they are no strangers, and only the sign of one unit has
a letter of ASCII. -/
theorem capitals_fit : ∀ run ∈ capitals,
    (128 ≤ run.2.2.2 ∨ run.2.2.2 = 'k'.toNat ∧ run.2.1 = run.1) ∧
    (∀ n ∈ strangers, lastSmall run < n ∨ n < run.2.2.2) ∧
    (lastSmall run < 0xd800 ∨ 0xe000 ≤ run.2.2.2 ∧ lastSmall run < 0x110000) := by
  decide +kernel

def Covers (run : Nat × Nat × Nat × Nat) (n : Nat) : Prop :=
  run.1 ≤ n ∧ n ≤ run.2.1 ∧ (n - run.1) % run.2.2.1 = 0

theorem not_covers {run other : Nat × Nat × Nat × Nat} (hrun : run ∈ capitals)
    (hother : other ∈ capitals) {k : Nat} (hk : k ≤ run.2.1 - run.1) (hstep : k % run.2.2.1 = 0) :
    ¬Covers other (run.2.2.2 + k) := by
  rintro ⟨hlow, hhigh, hplace⟩
  have hapart := List.all_eq_true.mp (List.all_eq_true.mp capitals_apart run hrun) other hother
  simp only [apart, lastSmall, Bool.or_eq_true, Bool.and_eq_true, Nat.blt_eq,
    Nat.beq_eq] at hapart
  rcases hapart with hbelow | habove | ⟨htwo, hparity, hpaired | hsingle⟩
  · omega
  · omega
  · rw [htwo] at hplace
    rw [hpaired] at hstep
    omega
  · rw [htwo] at hplace
    omega

theorem small_cases {c : Char} (hc : 128 ≤ c.toNat) :
    (∀ run ∈ capitals, ¬Covers run c.toNat) ∧ small c = c ∨
      ∃ run ∈ capitals, Covers run c.toNat ∧
        small c = Char.ofNat (run.2.2.2 + (c.toNat - run.1)) := by
  have hval : ¬c.val < 128 := by
    rw [UInt32.lt_iff_toNat_lt]
    exact Nat.not_lt.mpr hc
  unfold small
  rw [if_neg hval]
  split
  · rename_i first last step target hfind
    have hcovers := List.find?_some hfind
    simp only [Bool.and_eq_true, decide_eq_true_eq, beq_iff_eq, and_assoc] at hcovers
    exact .inr ⟨_, List.mem_of_find?_eq_some hfind, hcovers, rfl⟩
  · rename_i hfind
    refine .inl ⟨fun run hrun hcovers => ?_, rfl⟩
    have hmiss := List.find?_eq_none.mp hfind run hrun
    simp only [Bool.and_eq_true, decide_eq_true_eq, beq_iff_eq, and_assoc] at hmiss
    exact hmiss hcovers

theorem small_ascii {c : Char} (hc : c.toNat < 128) (hs : small c ≠ c) :
    isFolded (small c) = true ∧ IsSettled (small c) :=
  forall_below (p := fun c => small c ≠ c → isFolded (small c) = true ∧ IsSettled (small c))
    (by decide +kernel) hc hs

theorem small_covered {c : Char} {run : Nat × Nat × Nat × Nat} (hrun : run ∈ capitals)
    (hc : Covers run c.toNat) :
    let d := Char.ofNat (run.2.2.2 + (c.toNat - run.1))
    isFolded d = true ∧ IsSettled d := by
  intro d
  obtain ⟨hascii, hstrangers, hvalid⟩ := capitals_fit run hrun
  obtain ⟨hlow, hhigh, hplace⟩ := hc
  have hlast : run.2.2.2 + (c.toNat - run.1) ≤ lastSmall run := by
    unfold lastSmall
    omega
  have hd : d.toNat = run.2.2.2 + (c.toNat - run.1) := by
    have hchar : (run.2.2.2 + (c.toNat - run.1)).isValidChar := by
      unfold Nat.isValidChar
      omega
    exact congrArg Char.toNat (dif_pos hchar)
  rcases hascii with hascii | ⟨hk, hsingle⟩
  · have hstranger : d.toNat ∉ strangers := by
      intro hmem
      rcases hstrangers _ hmem with hbelow | habove <;> omega
    have hdotted : d ≠ 'İ' := fun he => hstranger (by rw [he]; decide)
    have hsigma : d ≠ 'Σ' := fun he => hstranger (by rw [he]; decide)
    have hblank : isBlank d = false := by
      simp [strangers] at hstranger
      simp [isBlank]
      omega
    have hfolded : isFolded d = true := by
      simp only [isFolded, hblank, Bool.not_false, Bool.and_true, decide_eq_true_eq]
      omega
    rcases small_cases (c := d) (by omega) with ⟨-, hsame⟩ | ⟨other, hother, hcovers, -⟩
    · exact ⟨hfolded, ⟨hdotted, hsigma, hsame⟩⟩
    · rw [hd] at hcovers
      exact absurd hcovers (not_covers hrun hother (by omega) hplace)
  · have hunit : d = 'k' := by
      rw [← Char.toNat_inj]
      omega
    rw [hunit]
    decide +kernel

theorem small_eq_or (c : Char) :
    small c = c ∨ isFolded (small c) = true ∧ IsSettled (small c) := by
  by_cases hc : c.toNat < 128
  · exact Classical.or_iff_not_imp_left.mpr (small_ascii hc)
  · rcases small_cases (Nat.not_lt.mp hc) with ⟨-, hsame⟩ | ⟨run, hrun, hcovers, hsmall⟩
    · exact .inl hsame
    · rw [hsmall]
      exact .inr (small_covered hrun hcovers)

theorem isFolded_small {c : Char} (h : small c ≠ c) : isFolded (small c) = true :=
  ((small_eq_or c).resolve_left h).1

theorem isSettled_small {c : Char} (hdotted : c ≠ 'İ') (hsigma : c ≠ 'Σ') :
    IsSettled (small c) := by
  rcases small_eq_or c with hsame | ⟨-, hsmall⟩
  · rw [hsame]
    exact ⟨hdotted, hsigma, hsame⟩
  · exact hsmall

theorem lowerAfter_cons (before : List Char) (c : Char) (rest : List Char) :
    ∃ d ds, lowerAfter before (c :: rest) = d :: ds ∧ (d = c ∨ isFolded d = true) ∧ IsSettled d ∧
      ∀ e ∈ ds, isFolded e = true ∧ IsSettled e ∨ e ∈ lowerAfter (c :: before) rest := by
  have hall : ['i', '\u0307', 'ς', 'σ'].all (fun d => isFolded d && decide (IsSettled d)) = true := by
    decide +kernel
  have hmarks (d : Char) (hd : d ∈ ['i', '\u0307', 'ς', 'σ']) : isFolded d = true ∧ IsSettled d := by
    simpa only [Bool.and_eq_true, decide_eq_true_eq] using List.all_eq_true.mp hall d hd
  by_cases hdotted : c = 'İ'
  · have hi := hmarks 'i' (by simp)
    refine ⟨'i', '\u0307' :: lowerAfter (c :: before) rest, by simp [lowerAfter, hdotted],
      .inr hi.1, hi.2, fun e he => ?_⟩
    rcases List.mem_cons.mp he with rfl | he
    · exact .inl (hmarks _ (by simp))
    · exact .inr he
  · by_cases hsigma : c = 'Σ'
    · have hd := hmarks (if meetsCased before && !meetsCased rest then 'ς' else 'σ')
        (by split <;> simp)
      exact ⟨_, lowerAfter (c :: before) rest, by simp [lowerAfter, hsigma], .inr hd.1, hd.2,
        fun e he => .inr he⟩
    · exact ⟨small c, lowerAfter (c :: before) rest, by simp [lowerAfter, hdotted, hsigma],
        Classical.or_iff_not_imp_left.mpr isFolded_small, isSettled_small hdotted hsigma,
        fun e he => .inr he⟩

variable {before cs : List Char}

theorem mem_lowerAfter {d : Char} (h : d ∈ lowerAfter before cs) :
    IsSettled d ∧ (d ∈ cs ∨ isFolded d = true) := by
  induction cs generalizing before with
  | nil => cases h
  | cons c cs ih =>
    obtain ⟨first, others, heq, hfirst, hsettled, hothers⟩ := lowerAfter_cons before c cs
    rw [heq, List.mem_cons] at h
    rcases h with rfl | h
    · exact ⟨hsettled, hfirst.imp_left fun he => List.mem_cons.mpr (.inl he)⟩
    · rcases hothers d h with ⟨hfolded, hsettled⟩ | h
      · exact ⟨hsettled, .inr hfolded⟩
      · exact ⟨(ih h).1, (ih h).2.imp_left (List.mem_cons_of_mem _)⟩

theorem lowerAfter_of_isSettled (h : ∀ c ∈ cs, IsSettled c) : lowerAfter before cs = cs := by
  induction cs generalizing before with
  | nil => rfl
  | cons c cs ih =>
    obtain ⟨hdotted, hsigma, hsmall⟩ := h c (List.mem_cons_self ..)
    have hrest : lowerAfter (c :: before) cs = cs := ih fun d hd => h d (List.mem_cons_of_mem _ hd)
    simp [lowerAfter, hdotted, hsigma, hsmall, hrest]

theorem lower_lower (s : String) : lower (lower s) = lower s := by
  have hsettled : ∀ c ∈ lowerAfter [] s.toList, IsSettled c := fun c hc => (mem_lowerAfter hc).1
  rw [lower, lower, String.toList_ofList, lowerAfter_of_isSettled hsettled]

end Microdata.Text
