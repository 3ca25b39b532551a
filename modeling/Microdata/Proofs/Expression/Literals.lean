import Microdata.Proofs.Expression.Tiling
import Microdata.Proofs.Expression.Source
import Microdata.Proofs.Number.Positional
set_option autoImplicit false

namespace Microdata

namespace Binary64

/-- Whether a number is written without an exponent: it is whole, or at least a ten thousandth. -/
def IsPositional : Binary64 → Prop
  | finite _ steps => unit ∣ steps ∨ unit ≤ 10 ^ 4 * steps
  | _ => False

instance : DecidablePred IsPositional
  | finite _ _ => inferInstanceAs (Decidable (_ ∨ _))
  | nan | inf _ => isFalse id

theorem eq_unsignedZero {x : Binary64} (h : x.IsPositional) : x.unsignedZero.eq x = true := by
  cases x with
  | finite negative steps =>
    cases steps with
    | zero => cases negative <;> rfl
    | succ steps => simp [unsignedZero, Binary64.eq]
  | _ => cases h

end Binary64

namespace Numeral

variable {negative : Bool} {cs : List Char} {m : Numeral}

theorem isDouble_of_nearest {x : Binary64} {digits : List Nat} {e : Int}
    (h : nearest (decimal negative digits e) = x) : x.IsDouble := by
  simp only [nearest] at h
  split at h
  · subst h
    exact And.intro (by decide +kernel) (Nat.dvd_zero _)
  split at h
  · subst h
    exact trivial
  split at h
  · exact Binary64.isDouble_of_ofSteps h
  · exact Binary64.isDouble_of_ofSteps h

theorem Plain.isDouble (h : Plain negative cs m) : m.nearest.IsDouble := by
  generalize hx : m.nearest = x
  cases h <;> exact isDouble_of_nearest hx

theorem Plain.exists_eq_cons (h : Plain negative cs m) : ∃ c rest, cs = c :: rest := by
  refine List.exists_cons_of_ne_nil ?_
  cases h with
  | whole hw hne => simp [hne]
  | fraction hw hne hf hfne => simp

end Numeral

namespace Lexer

theorem head?_isDigit {cs : List Char} (h : ∀ c ∈ cs, c.isDigit = true) (hne : cs ≠ [])
    (rest : List Char) : (cs ++ rest).head?.any Char.isDigit = true := by
  cases cs with
  | nil => exact absurd rfl hne
  | cons c cs => simpa using h c (List.mem_cons_self ..)

theorem lexeme_plain {negative : Bool} {c : Char} {cs : List Char} {m : Numeral}
    (h : Numeral.Plain negative (c :: cs) m) :
    lexeme c (cs ++ []) = .ok ⟨some (.number, c :: cs), cs.length⟩ := by
  generalize hcs : c :: cs = text at h
  rw [← hcs]
  cases h with
  | whole hw hne => exact lexeme_number hw hne boundary_nil hcs.symm
  | fraction hw hne hf hfne =>
    exact lexeme_numeral (head?_isDigit hw hne _) (numberWidth_fraction hw hf hfne boundary_nil)
      hcs.symm

/-- A text that is a single token, which is for a number and spells a numeral. -/
def IsNumber (s : String) (m : Numeral) : Prop :=
  ∃ l t, tokenize s = .ok l ∧ l.tokens = [t] ∧ t.kind = .number ∧ Numeral.read? t.value = some m

theorem isNumber_of_plain {negative : Bool} {s : String} {m : Numeral}
    (h : Numeral.Plain negative s.toList m) : IsNumber s m := by
  have hread := h.read?_eq
  obtain ⟨c, cs, hcs⟩ := h.exists_eq_cons
  rw [hcs] at h
  have hscans : Scans 0 (c :: (cs ++ [])) [⟨.number, String.ofList (c :: cs), 0⟩] _ [] :=
    Expr.scans_token (lexeme_plain h)
  rw [List.append_nil, ← hcs] at hscans
  exact ⟨_, ⟨.number, String.ofList s.toList, 0⟩, tokenize_of_scans hscans, rfl, rfl, hread⟩

theorem isNameStart_of_isAlpha {c : Char} (h : c.isAlpha = true) : isNameStart c = true := by
  rw [isNameStart, h, Bool.true_or]

theorem isAlpha_of_isDigit {c : Char} (h : c.isDigit = true) : c.isAlpha = false := by
  rw [Bool.eq_false_iff]
  intro halpha
  have hdigit := isDigit_of_isNameStart (isNameStart_of_isAlpha halpha)
  rw [h] at hdigit
  cases hdigit

theorem isAlpha_of_isBlank {c : Char} (h : Text.isBlank c = true) : c.isAlpha = false := by
  rw [Bool.eq_false_iff]
  intro halpha
  have hletter := toNat_of_isNameStart (isNameStart_of_isAlpha halpha)
  rw [Text.isBlank_of_graphic (by omega)] at h
  cases h

theorem isAlpha_take_numberWidth {cs : List Char} (h : cs.head?.any Char.isDigit = true) :
    ∀ c ∈ cs.take (numberWidth cs), c.isAlpha = false := by
  intro c hc
  obtain ⟨whole, -, hw, heq | ⟨fraction, hf, heq⟩⟩ := take_numberWidth h
  · rw [heq] at hc
    exact isAlpha_of_isDigit (hw c hc)
  · rw [heq] at hc
    rcases List.mem_append.mp hc with hc | hc
    · exact isAlpha_of_isDigit (hw c hc)
    · obtain rfl | hc := List.mem_cons.mp hc
      · rfl
      · exact isAlpha_of_isDigit (hf c hc)

theorem Lexes.isAlpha_eq_false {c : Char} {cs value : List Char} {more : Nat}
    (h : Lexes c cs (some (.number, value)) more) : ∀ d ∈ c :: cs.take more, d.isAlpha = false := by
  generalize htoken : some (TokenKind.number, value) = token at h
  cases h with
  | blank => cases htoken
  | text => cases htoken
  | number hc hn =>
    subst hn
    have hhead : (c :: cs).head?.any Char.isDigit = true := hc
    obtain ⟨n, hn⟩ := Nat.exists_eq_add_one.mpr (numberWidth_pos hhead)
    have hnone := isAlpha_take_numberWidth hhead
    rw [hn, List.take_succ_cons] at hnone
    rw [hn]
    exact hnone
  | negative hd hn =>
    subst hn
    intro d hd'
    obtain rfl | hd' := List.mem_cons.mp hd'
    · rfl
    · exact isAlpha_take_numberWidth hd d hd'
  | word =>
    obtain ⟨hkind, -⟩ := Prod.mk.inj (Option.some.inj htoken)
    exact absurd hkind.symm (wordKind_ne_number _)
  | reserved =>
    obtain ⟨hkind, -⟩ := Prod.mk.inj (Option.some.inj htoken)
    split at hkind <;> cases hkind
  | symbol hs =>
    obtain ⟨hkind, -⟩ := Prod.mk.inj (Option.some.inj htoken)
    exact absurd hkind.symm (symbol?_kind hs)

theorem Scans.isAlpha_eq_false {offset finish : Nat} {cs : List Char} {ts : List Token}
    (h : Scans offset cs ts finish []) (hk : ∀ t ∈ ts, t.kind = .number) :
    ∀ c ∈ cs, c.isAlpha = false := by
  generalize hnil : ([] : List Char) = rest at h
  induction h with
  | done =>
    subst hnil
    nofun
  | blank hl _ ih =>
    obtain ⟨hblank, rfl⟩ := (lexes_of_lexeme hl).isBlank
    exact List.forall_mem_cons.mpr ⟨isAlpha_of_isBlank hblank, ih hk hnil⟩
  | @token offset finish more c cs value rest kind ts hl _ ih =>
    obtain ⟨hkind, hrest⟩ := List.forall_mem_cons.mp hk
    obtain rfl : kind = .number := hkind
    have hnone := (lexes_of_lexeme hl).isAlpha_eq_false
    intro d hd
    rw [← List.take_append_drop more cs, ← List.cons_append] at hd
    exact (List.mem_append.mp hd).elim (hnone d) (ih hrest hnil d)

theorem IsNumber.isAlpha_eq_false {s : String} {m : Numeral} (h : IsNumber s m) :
    ∀ c ∈ s.toList, c.isAlpha = false := by
  obtain ⟨l, t, htokens, hl, hkind, -⟩ := h
  obtain ⟨finish, hs⟩ := scans_of_tokenize htokens
  rw [hl] at hs
  exact hs.isAlpha_eq_false (by simpa using hkind)

end Lexer

namespace Binary64

variable {steps : Nat}

theorem exists_toInt? (negative : Bool) (h : unit ∣ steps) :
    ∃ n, (finite negative steps).toInt? = some n := by
  have hmod : (steps % unit == 0) = true := beq_iff_eq.mpr (Nat.mod_eq_zero_of_dvd h)
  exact ⟨_, by rw [toInt?, if_pos hmod]⟩

theorem toInt?_eq_none (negative : Bool) (h : ¬ unit ∣ steps) :
    (finite negative steps).toInt? = none := by
  have hmod : ¬ (steps % unit == 0) = true := fun hmod =>
    h (Nat.dvd_of_mod_eq_zero (beq_iff_eq.mp hmod))
  rw [toInt?, if_neg hmod]

end Binary64

namespace Expr

open Lexer Binary64

variable {x : Binary64}

theorem exists_plain_numberText (hx : x.IsDouble) (h : x.IsPositional) : ∃ negative m,
    Numeral.Plain negative (numberText x).toList m ∧ m.nearest = x.unsignedZero := by
  cases x with
  | finite negative steps =>
    by_cases hdvd : unit ∣ steps
    · obtain ⟨n, hn⟩ := exists_toInt? negative hdvd
      rw [numberText_eq hn, String.toList_ofList]
      refine ⟨_, _, .whole (fun c hc => ?_) Nat.toDigits_ne_nil, ?_⟩
      · exact Numeral.isDigit_of_mem_toDigits hc
      · rw [Numeral.nearest_toDigits (isDouble_natAbs hx hn _), unsignedZero_eq hn]
    · have hne : steps ≠ 0 := fun hzero => hdvd (hzero ▸ Nat.dvd_zero unit)
      have hleast := neg_four_lt_shownPoint (h.resolve_left hdvd)
      have hmost := shownPoint_le_sixteen hx.2 hdvd
      obtain ⟨m, hplain, hnearest⟩ := exists_plain_text hx hne hleast hmost
      rw [numberText, toInt?_eq_none negative hdvd, unsignedZero_of_ne hne]
      exact ⟨negative, m, hplain, hnearest⟩
  | _ => cases h

theorem exists_isAlpha_numberText (hx : x.IsDouble) (h : ¬ x.IsPositional) :
    ∃ c ∈ (numberText x).toList, c.isAlpha = true := by
  cases x with
  | nan => exact ⟨'n', by decide, rfl⟩
  | inf negative => exact ⟨'n', by cases negative <;> decide, rfl⟩
  | finite negative steps =>
    obtain ⟨hdvd, hlt⟩ := not_or.mp h
    have hne : steps ≠ 0 := fun hzero => hdvd (hzero ▸ Nat.dvd_zero unit)
    rw [numberText, toInt?_eq_none negative hdvd]
    exact ⟨'e', mem_text_of_exponent hne (shownPoint_le hne hx.2 (Nat.lt_of_not_le hlt)), rfl⟩

theorem exists_parseExpression {s : String} {m : Numeral} (h : IsNumber s m) :
    ∃ span, parseExpression s = .ok (.number m.nearest span) := by
  obtain ⟨l, t, htokens, hl, hkind, hread⟩ := h
  have hd : Parser.Derives (.level .or) 0 l.tokens (.number m.nearest .unknown) := by
    rw [hl]
    exact ((Parser.Derives.terminal (.number hkind hread)).operands .or).up
  have hparse := Parser.parseTokens_of_derives hd
  rw [if_pos (Nat.zero_le _)] at hparse
  obtain ⟨e, he, hbare⟩ := hparse
  cases e with
  | number x span =>
    cases hbare
    exact ⟨span, by simp only [parseExpression, htokens, he]⟩
  | _ => cases hbare

/-- A number of any length is read as the nearest one, and the canonical text of that is a single
token for the same number, but for the sign of a zero, exactly if it needs no exponent. -/
theorem isNumber_source_iff {negative : Bool} {s : String} {m : Numeral}
    (h : Numeral.Plain negative s.toList m) : IsNumber s m ∧
      ∃ span, parseExpression s = .ok (.number m.nearest span) ∧
        ((∃ m', IsNumber (Expr.number m.nearest span).source m' ∧
          m'.nearest.eq m.nearest = true) ↔ m.nearest.IsPositional) := by
  have hnumber := isNumber_of_plain h
  obtain ⟨span, hparse⟩ := exists_parseExpression hnumber
  refine ⟨hnumber, span, hparse, ?_⟩
  rw [source]
  constructor
  · rintro ⟨m', hsource, -⟩
    by_contra hexponent
    obtain ⟨c, hc, halpha⟩ := exists_isAlpha_numberText h.isDouble hexponent
    rw [hsource.isAlpha_eq_false c hc] at halpha
    cases halpha
  · intro hpositional
    obtain ⟨negative', m', hplain, hnearest⟩ := exists_plain_numberText h.isDouble hpositional
    exact ⟨m', isNumber_of_plain hplain, hnearest ▸ eq_unsignedZero hpositional⟩

theorem plain_quarter :
    Numeral.Plain true "-07.250".toList (.decimal true [0, 7, 2, 5, 0] (-3)) :=
  @Numeral.Plain.fraction true ['0', '7'] ['2', '5', '0'] (List.all_eq_true.mp rfl) (by decide)
    (List.all_eq_true.mp rfl) (by decide)

theorem plain_hundredThousandth :
    Numeral.Plain false "0.00001".toList (.decimal false [0, 0, 0, 0, 0, 1] (-5)) :=
  @Numeral.Plain.fraction false ['0'] ['0', '0', '0', '0', '1'] (List.all_eq_true.mp rfl)
    (by decide) (List.all_eq_true.mp rfl) (by decide)

theorem isNumber_source_quarter : ∃ span,
    parseExpression "-07.250" = .ok (.number (.finite true (29 * 2 ^ 1072)) span) ∧
      ∃ m, IsNumber (Expr.number (.finite true (29 * 2 ^ 1072)) span).source m ∧
        m.nearest.eq (.finite true (29 * 2 ^ 1072)) = true := by
  have hnearest : (Numeral.decimal true [0, 7, 2, 5, 0] (-3)).nearest =
      .finite true (29 * 2 ^ 1072) := by decide +kernel
  obtain ⟨-, span, hparse, hiff⟩ := isNumber_source_iff plain_quarter
  rw [hnearest] at hparse hiff
  exact ⟨span, hparse, hiff.mpr (by decide +kernel)⟩

/-- A number that is written with an exponent is not scanned as a number again. -/
theorem not_isNumber_source_hundredThousandth : ∃ m span,
    Numeral.Plain false "0.00001".toList m ∧
      parseExpression "0.00001" = .ok (.number m.nearest span) ∧
      (Expr.number m.nearest span).source = "1e-05" ∧ ¬ ∃ m', IsNumber "1e-05" m' := by
  obtain ⟨span, hparse⟩ := exists_parseExpression (isNumber_of_plain plain_hundredThousandth)
  refine ⟨_, span, plain_hundredThousandth, hparse, ?_, ?_⟩
  · rw [source]
    decide +kernel
  · rintro ⟨m', h⟩
    have hletter := h.isAlpha_eq_false 'e' (by decide)
    cases hletter

end Expr
end Microdata
