import Microdata.Number.Decimal
import Microdata.Text.Split
set_option autoImplicit false

namespace Microdata.Numeral

def values (digits : List Char) : List Nat := digits.map (·.toNat - 48)

def sign (negative : Bool) : List Char := if negative then ['-'] else []

theorem toNat_of_isDigit {c : Char} (h : c.isDigit = true) : 48 ≤ c.toNat ∧ c.toNat ≤ 57 :=
  Char.isDigit_iff_toNat.mp h

theorem isDigit_of_mem_toDigits {n : Nat} {c : Char} (h : c ∈ Nat.toDigits 10 n) :
    c.isDigit = true :=
  Nat.isDigit_of_mem_toDigits (by decide) (by decide) h

theorem not_mem_toDigits {n : Nat} {c : Char} (h : c.isDigit = false) : c ∉ Nat.toDigits 10 n := by
  intro hm
  rw [isDigit_of_mem_toDigits hm] at h
  cases h

theorem digitChar_sub : ∀ n < 10, Nat.digitChar n = Char.ofNat (n + 48) := by decide

theorem plain_of_isDigit {c : Char} (h : c.isDigit = true) : plain c = c := by
  obtain ⟨hl, hu⟩ := toNat_of_isDigit h
  have hascii : c.val < 128 := UInt32.lt_iff_toNat_lt.mpr (show c.toNat < 128 by omega)
  have hd := digitChar_sub (c.toNat - 48) (by omega)
  rw [Nat.sub_add_cancel hl, Char.ofNat_toNat] at hd
  simp only [plain, Text.decimalValue?, hascii, h, if_true, hd]

theorem isMargin_of_isDigit {c : Char} (h : c.isDigit = true) : Text.isMargin c = false := by
  obtain ⟨hl, hu⟩ := toNat_of_isDigit h
  rw [Text.isMargin, Text.isBlank_of_graphic (by omega), Bool.false_and]

theorem joined?_eq {cs : List Char} (h : ∀ c ∈ cs, c ≠ '_') (afterDigit : Bool) :
    joined? afterDigit cs = some cs := by
  induction cs generalizing afterDigit with
  | nil => rfl
  | cons c cs ih =>
    have hcs := ih fun d hd => h d (List.mem_cons_of_mem _ hd)
    rw [joined?]
    · rw [hcs, Option.map_some]
    · exact h c (List.mem_cons_self ..)

theorem spanDigits_append {digits rest : List Char} (hd : ∀ c ∈ digits, c.isDigit = true)
    (hr : ∀ c ∈ rest.head?, c.isDigit = false) :
    spanDigits (digits ++ rest) = (values digits, rest) := by
  obtain ⟨htake, hdrop⟩ := Text.takeWhile_append hd hr
  rw [spanDigits, htake, hdrop, values]

theorem toLower_of_isDigit {c : Char} (h : c.isDigit = true) : c.toLower = c := by
  obtain ⟨hl, hu⟩ := toNat_of_isDigit h
  have hlow : ¬ (c.val ≥ 'A'.val ∧ c.val ≤ 'Z'.val) := by
    rintro ⟨hA, -⟩
    have hA : 65 ≤ c.toNat := UInt32.le_iff_toNat_le.mp hA
    omega
  exact dif_neg hlow

theorem map_toLower_ne {c : Char} (hc : c.isDigit = true) (cs name : List Char)
    (hn : name.head?.any Char.isDigit = false) : ((c :: cs).map Char.toLower == name) = false := by
  rw [beq_eq_false_iff_ne, List.map_cons, toLower_of_isDigit hc]
  rintro rfl
  simp [hc] at hn

theorem unsigned?_of_spans (negative : Bool) {whole fraction rest : List Char}
    (hw : ∀ c ∈ whole, c.isDigit = true) (hne : whole ≠ [])
    (hr : ∀ c ∈ rest.head?, c.isDigit = false)
    (hf : spanFraction rest = (values fraction, [])) :
    unsigned? negative (whole ++ rest) =
      some (decimal negative (values whole ++ values fraction) (-fraction.length)) := by
  have hs := spanDigits_append hw hr
  cases whole with
  | nil => exact absurd rfl hne
  | cons c whole =>
    have hc := hw c (List.mem_cons_self ..)
    rw [List.cons_append] at hs ⊢
    have h₁ := map_toLower_ne hc (whole ++ rest) "inf".toList (by decide)
    have h₂ := map_toLower_ne hc (whole ++ rest) "infinity".toList (by decide)
    have h₃ := map_toLower_ne hc (whole ++ rest) "nan".toList (by decide)
    simp only [unsigned?, h₁, h₂, h₃, hs, hf]
    simp [exponent?, values]

theorem unsigned?_whole (negative : Bool) {whole : List Char}
    (hw : ∀ c ∈ whole, c.isDigit = true) (hne : whole ≠ []) :
    unsigned? negative whole = some (decimal negative (values whole) 0) := by
  have hnil : spanFraction [] = (values [], []) := rfl
  have h := unsigned?_of_spans negative hw hne (by simp) hnil
  simpa [values] using h

theorem unsigned?_fraction (negative : Bool) {whole fraction : List Char}
    (hw : ∀ c ∈ whole, c.isDigit = true) (hne : whole ≠ [])
    (hf : ∀ c ∈ fraction, c.isDigit = true) :
    unsigned? negative (whole ++ '.' :: fraction) =
      some (decimal negative (values whole ++ values fraction) (-fraction.length)) := by
  have hs : spanDigits (fraction ++ []) = (values fraction, []) := spanDigits_append hf (by simp)
  rw [List.append_nil] at hs
  exact unsigned?_of_spans negative hw hne (by simp) hs

/-- No character of a plain numeral is a blank, a low line or a digit of another script. -/
theorem read?_sign (negative : Bool) {cs : List Char}
    (h : ∀ c ∈ cs, c.isDigit = true ∨ c = '.') :
    read? (String.ofList (sign negative ++ cs)) = unsigned? negative cs := by
  have hall : ∀ c ∈ sign negative ++ cs, c.isDigit = true ∨ c = '.' ∨ c = '-' := by
    intro c hc
    rcases List.mem_append.mp hc with hs | hc
    · exact .inr (.inr (by cases negative <;> simp_all [sign]))
    · exact (h c hc).imp_right .inl
  have htrim : Text.trim Text.isMargin (sign negative ++ cs) = sign negative ++ cs := by
    refine Text.trim_of_forall fun c hc => ?_
    obtain hd | rfl | rfl := hall c hc
    · exact isMargin_of_isDigit hd
    · decide
    · decide
  have hplain : (sign negative ++ cs).map plain = sign negative ++ cs := by
    refine (List.map_congr_left fun c hc => ?_).trans (List.map_id _)
    obtain hd | rfl | rfl := hall c hc
    · exact plain_of_isDigit hd
    · decide
    · decide
  have hjoined : joined? false (sign negative ++ cs) = some (sign negative ++ cs) := by
    refine joined?_eq (fun c hc => ?_) false
    rintro rfl
    have := hall _ hc
    simp at this
  have hsign : spanSign (sign negative ++ cs) = (negative, cs) := by
    cases negative with
    | true => rfl
    | false =>
      change spanSign cs = (false, cs)
      unfold spanSign
      split
      · have := h '-' (List.mem_cons_self ..)
        simp at this
      · have := h '+' (List.mem_cons_self ..)
        simp at this
      · rfl
  simp only [read?, String.toList_ofList, htrim, hplain, hjoined, Option.bind_eq_bind,
    Option.bind_some, hsign]

theorem read?_whole (negative : Bool) {whole : List Char}
    (hw : ∀ c ∈ whole, c.isDigit = true) (hne : whole ≠ []) :
    read? (String.ofList (sign negative ++ whole)) = some (decimal negative (values whole) 0) := by
  rw [read?_sign negative fun c hc => .inl (hw c hc), unsigned?_whole negative hw hne]

theorem read?_fraction (negative : Bool) {whole fraction : List Char}
    (hw : ∀ c ∈ whole, c.isDigit = true) (hne : whole ≠ [])
    (hf : ∀ c ∈ fraction, c.isDigit = true) :
    read? (String.ofList (sign negative ++ (whole ++ '.' :: fraction))) =
      some (decimal negative (values whole ++ values fraction) (-fraction.length)) := by
  have hall : ∀ c ∈ whole ++ '.' :: fraction, c.isDigit = true ∨ c = '.' := by
    intro c hc
    rcases List.mem_append.mp hc with hc | hc
    · exact .inl (hw c hc)
    · obtain rfl | hc := List.mem_cons.mp hc
      · exact .inr rfl
      · exact .inl (hf c hc)
  rw [read?_sign negative hall, unsigned?_fraction negative hw hne hf]

end Microdata.Numeral
