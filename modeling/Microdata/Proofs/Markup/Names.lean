import Microdata.Markup.Event
import Microdata.Proofs.Text.Lowercase
set_option autoImplicit false

namespace Microdata.Markup

/-- A name of a tag: a small letter, and then whatever a tag may hold. -/
structure IsTagName (s : String) : Prop where
  letter : s.toList.head?.any Char.isLower = true
  chars : ∀ c ∈ s.toList, isTagChar c = true
  lower : Text.lower s = s

/-- A name of an attribute. Its first character may be one that ends it elsewhere. -/
structure IsAttributeName (s : String) : Prop where
  begins : s.toList.head?.any (beginsAttribute ' ') = true
  chars : ∀ c ∈ s.toList.tail, isAttributeChar c = true
  lower : Text.lower s = s

def endsInBlank (s : String) : Bool := s.toList.getLast?.any Text.isBlank

def IsUnqualified (s : String) : Prop := s.toList.head? ≠ some '\x7b'

instance (s : String) : Decidable (IsUnqualified s) := inferInstanceAs (Decidable (_ ≠ _))

theorem exists_cons_of_any {p : Char → Bool} {cs : List Char} (h : cs.head?.any p = true) :
    ∃ c rest, cs = c :: rest ∧ p c = true := by
  cases cs with
  | nil => cases h
  | cons c rest => exact ⟨c, rest, rfl, h⟩

theorem separates_space : separates ' ' = true := by decide

theorem beginsAttribute_iff {last c : Char} (hl : separates last = true) :
    beginsAttribute last c = true ↔ Text.isBlank c = false ∧ c ≠ '/' ∧ c ≠ '>' := by
  simp [beginsAttribute, hl, and_assoc]

section

variable {c : Char} (h : Text.isFolded c = true)
include h

theorem isTagChar_of_isFolded : isTagChar c = true := by
  simp (disch := decide) [isTagChar, Text.ne_of_isFolded h]

theorem isAttributeChar_of_isFolded : isAttributeChar c = true := by
  simp (disch := decide) [isAttributeChar, Text.isBlank_of_isFolded h, Text.ne_of_isFolded h]

theorem beginsAttribute_of_isFolded : beginsAttribute ' ' c = true :=
  (beginsAttribute_iff separates_space).mpr ⟨Text.isBlank_of_isFolded h,
    Text.ne_of_isFolded h (by decide), Text.ne_of_isFolded h (by decide)⟩

end

theorem isUnqualified_of_letter {s : String} (h : s.toList.head?.any Char.isLower = true) :
    IsUnqualified s := by
  intro he
  rw [he] at h
  contradiction

theorem toNat_of_isAlpha {c : Char} (h : c.isAlpha = true) : c.toNat < 128 := by
  change (c.isUpper || c.isLower) = true at h
  rw [Bool.or_eq_true] at h
  rcases h with hupper | hlower
  · have hz : c.toNat ≤ 90 := (of_decide_eq_true hupper).2
    omega
  · have hz : c.toNat ≤ 122 := of_decide_eq_true (Bool.and_eq_true_iff.mp hlower).2
    omega

theorem lowerAfter_letter {c : Char} (h : c.isAlpha = true) (before rest : List Char) :
    ∃ d, Text.lowerAfter before (c :: rest) = d :: Text.lowerAfter (c :: before) rest ∧
      d.isLower = true := by
  obtain ⟨hdotted, hsigma, hlower⟩ := Text.forall_below
    (p := fun c => c.isAlpha = true → c ≠ 'İ' ∧ c ≠ 'Σ' ∧ (Text.small c).isLower = true)
    (by decide +kernel) (toNat_of_isAlpha h) h
  exact ⟨Text.small c, by simp [Text.lowerAfter, hdotted, hsigma], hlower⟩

theorem isTagChar_of_isAlpha {c : Char} (h : c.isAlpha = true) : isTagChar c = true :=
  Text.forall_below (p := fun c => c.isAlpha = true → isTagChar c = true) (by decide +kernel)
    (toNat_of_isAlpha h) h

theorem isTagName_lower {c : Char} {cs : List Char} (hc : c.isAlpha = true)
    (hcs : ∀ d ∈ cs, isTagChar d = true) : IsTagName (Text.lower (String.ofList (c :: cs))) where
  letter := by
    obtain ⟨d, hd, hlower⟩ := lowerAfter_letter hc [] cs
    rw [Text.lower, String.toList_ofList, String.toList_ofList, hd]
    exact hlower
  chars := by
    intro d hd
    rw [Text.lower, String.toList_ofList, String.toList_ofList] at hd
    rcases (Text.mem_lowerAfter hd).2 with hd | hfolded
    · rcases List.mem_cons.mp hd with rfl | hd
      · exact isTagChar_of_isAlpha hc
      · exact hcs d hd
    · exact isTagChar_of_isFolded hfolded
  lower := Text.lower_lower _

theorem isAttributeName_lower {c : Char} {cs : List Char} (hc : beginsAttribute ' ' c = true)
    (hcs : ∀ d ∈ cs, isAttributeChar d = true) :
    IsAttributeName (Text.lower (String.ofList (c :: cs))) := by
  obtain ⟨d, ds, heq, hd, -, hds⟩ := Text.lowerAfter_cons [] c cs
  refine ⟨?_, ?_, Text.lower_lower _⟩
  · rw [Text.lower, String.toList_ofList, String.toList_ofList, heq]
    exact hd.elim (fun he => he ▸ hc) beginsAttribute_of_isFolded
  · intro e he
    rw [Text.lower, String.toList_ofList, String.toList_ofList, heq] at he
    rcases hds e he with ⟨hfolded, -⟩ | he
    · exact isAttributeChar_of_isFolded hfolded
    · exact (Text.mem_lowerAfter he).2.elim (hcs e) isAttributeChar_of_isFolded

def isWordChar (c : Char) : Bool := c.isLower || c.isDigit || c == '-'

def IsWord (s : String) : Prop :=
  ∃ c cs, s.toList = c :: cs ∧ c.isLower = true ∧ ∀ d ∈ cs, isWordChar d = true

theorem isWord_iff (s : String) :
    IsWord s ↔ s.toList.head?.any Char.isLower = true ∧ s.toList.tail.all isWordChar = true := by
  rw [List.all_eq_true]
  constructor
  · rintro ⟨c, cs, hs, hc, hcs⟩
    simpa [hs] using ⟨hc, hcs⟩
  · rintro ⟨hc, hcs⟩
    cases hs : s.toList with
    | nil => simp [hs] at hc
    | cons c cs =>
      rw [hs] at hc hcs
      exact ⟨c, cs, hs, hc, hcs⟩

instance (s : String) : Decidable (IsWord s) := decidable_of_iff' _ (isWord_iff s)

/-- What holds of the few characters of words can be checked one by one. -/
theorem of_isWordChar {p : Char → Bool}
    (h : ∀ n < 123, isWordChar (Char.ofNat n) = true → p (Char.ofNat n) = true) {c : Char}
    (hc : isWordChar c = true) : p c = true := by
  have hlt : c.toNat < 123 := by
    rw [isWordChar, Bool.or_eq_true, Bool.or_eq_true, beq_iff_eq] at hc
    rcases hc with (hlower | hdigit) | rfl
    · have hz : c.toNat ≤ 122 := of_decide_eq_true (Bool.and_eq_true_iff.mp hlower).2
      omega
    · have hz : c.toNat ≤ 57 := of_decide_eq_true (Bool.and_eq_true_iff.mp hdigit).2
      omega
    · decide
  exact Text.forall_below (p := fun c => isWordChar c = true → p c = true) h hlt hc

theorem isWordChar_of_isLower {c : Char} (h : c.isLower = true) : isWordChar c = true := by
  simp [isWordChar, h]

theorem isAlpha_of_isLower {c : Char} (h : c.isLower = true) : c.isAlpha = true := by
  change (c.isUpper || c.isLower) = true
  rw [h, Bool.or_true]

namespace IsWord

variable {s : String} (h : IsWord s)
include h

theorem isWordChar : ∀ c ∈ s.toList, Markup.isWordChar c = true := by
  obtain ⟨c, cs, hs, hc, hcs⟩ := h
  intro d hd
  rw [hs, List.mem_cons] at hd
  rcases hd with rfl | hd
  · exact isWordChar_of_isLower hc
  · exact hcs d hd

theorem lower : Text.lower s = s := by
  have hsettled : ∀ c ∈ s.toList, Text.IsSettled c := fun c hc =>
    of_decide_eq_true (of_isWordChar (p := fun c => decide (Text.IsSettled c)) (by decide +kernel)
      (h.isWordChar c hc))
  rw [Text.lower, Text.lowerAfter_of_isSettled hsettled, String.ofList_toList]

theorem isTagName : IsTagName s where
  letter := ((isWord_iff s).mp h).1
  chars := fun c hc => of_isWordChar (p := isTagChar) (by decide) (h.isWordChar c hc)
  lower := h.lower

theorem isAttributeName : IsAttributeName s where
  begins := by
    obtain ⟨c, cs, hs, hc, -⟩ := h
    have hbegins := of_isWordChar (p := beginsAttribute ' ') (by decide +kernel)
      (isWordChar_of_isLower hc)
    simpa [hs] using hbegins
  chars := fun c hc => of_isWordChar (p := isAttributeChar) (by decide +kernel)
    (h.isWordChar c (List.mem_of_mem_tail hc))
  lower := h.lower

theorem endsInBlank : Markup.endsInBlank s = false := by
  have hblank : ∀ c ∈ s.toList, Text.isBlank c = false := fun c hc => by
    simpa using of_isWordChar (p := fun c => !Text.isBlank c) (by decide +kernel)
      (h.isWordChar c hc)
  rw [Markup.endsInBlank, Option.any_eq_false]
  exact fun c hc => by simp [hblank c (List.mem_of_getLast? hc)]

end IsWord

end Microdata.Markup
