import Microdata.Expression.Basic
import Microdata.Proofs.Expression.Scanning
set_option autoImplicit false

namespace Microdata.Lexer

/-- Whether a text begins with nothing that could belong to a token in front of it. -/
def Boundary (rest : List Char) : Prop := ∀ c ∈ rest.head?, c = ' ' ∨ c = ')'

theorem boundary_nil : Boundary [] := nofun

theorem boundary_space (rest : List Char) : Boundary (' ' :: rest) := by
  simp [Boundary]

theorem boundary_close (rest : List Char) : Boundary (')' :: rest) := by
  simp [Boundary]

variable {rest : List Char}

theorem Boundary.head?_eq_false (h : Boundary rest) {p : Char → Bool} (hs : p ' ' = false)
    (hc : p ')' = false) : ∀ c ∈ rest.head?, p c = false := by
  intro c hmem
  obtain rfl | rfl := h c hmem
  · exact hs
  · exact hc

theorem ne_quote {c : Char} (h : 40 ≤ c.toNat) : (c == '"' || c == '\'') = false := by
  rw [Bool.or_eq_false_iff, beq_eq_false_iff_ne, beq_eq_false_iff_ne]
  constructor <;> rintro rfl <;> simp at h

theorem toNat_of_isNameStart {c : Char} (h : isNameStart c = true) :
    65 ≤ c.toNat ∧ c.toNat ≤ 122 := by
  change (decide (c.val ≥ 'A'.val ∧ c.val ≤ 'Z'.val) ||
    (decide (c.val ≥ 'a'.val) && decide (c.val ≤ 'z'.val)) || c == '_') = true at h
  simp only [Bool.or_eq_true, Bool.and_eq_true, decide_eq_true_eq, beq_iff_eq,
    ge_iff_le, UInt32.le_iff_toNat_le] at h
  change ((65 ≤ c.toNat ∧ c.toNat ≤ 90) ∨ (97 ≤ c.toNat ∧ c.toNat ≤ 122)) ∨ c = '_' at h
  obtain (h | h) | rfl := h
  · omega
  · omega
  · decide

theorem isNameRest_of_isNameStart {c : Char} (h : isNameStart c = true) :
    isNameRest c = true := by
  simp only [isNameStart, isNameRest, Char.isAlphanum, Bool.or_eq_true] at h ⊢
  exact .inl (h.imp_left .inl)

theorem isDigit_of_isNameStart {c : Char} (h : isNameStart c = true) : c.isDigit = false := by
  obtain ⟨hl, hu⟩ := toNat_of_isNameStart h
  rw [Bool.eq_false_iff]
  intro hd
  have := Numeral.toNat_of_isDigit hd
  omega

theorem Lexes.lexeme_eq {c : Char} {cs : List Char} {token : Option (TokenKind × List Char)}
    {more : Nat} (h : Lexes c cs token more) : lexeme c cs = .ok ⟨token, more⟩ := by
  cases h with
  | blank hc => rw [lexeme, if_pos hc]
  | text hquote hquoted =>
    have hblank : Text.isBlank c = false := by
      obtain rfl | rfl := hquote <;> decide
    simp [lexeme, hblank, hquote, hquoted]
  | number hc hn =>
    obtain ⟨hl, hu⟩ := Numeral.toNat_of_isDigit hc
    simp [lexeme, Text.isBlank_of_graphic (c := c) (by omega), ne_quote (c := c) (by omega), hc, hn]
  | negative hd hn =>
    change (if cs.head?.any Char.isDigit = true then _ else _) = _
    rw [if_pos hd, hn]
  | word hc hrun =>
    obtain ⟨hl, hu⟩ := toNat_of_isNameStart hc
    have hblank := Text.isBlank_of_graphic (c := c) (by omega)
    have hquote := ne_quote (c := c) (by omega)
    have hminus : (c == '-') = false := by
      rw [beq_eq_false_iff_ne]
      rintro rfl
      simp at hl
    simp [lexeme, hblank, hquote, isDigit_of_isNameStart hc, hminus, hc, hrun]
  | reserved hs hrun =>
    change (if cs.head?.any isNameStart = true then _ else _) = _
    rw [if_pos hs, hrun]
  | symbol hs =>
    have hsymbol : lexeme c cs = Lexer.symbol c cs := by
      unfold symbol? at hs
      split at hs <;> first | rfl | cases hs
    rw [hsymbol, Lexer.symbol, hs]

theorem quotedText_escape (value : List Char) :
    quotedText '"' (Expr.escape value ++ '"' :: rest) =
      some (value, (Expr.escape value).length + 1) := by
  induction value with
  | nil => rfl
  | cons c value ih =>
    rw [Expr.escape]
    split
    · rename_i h
      have hc : unescape c = [c] := by
        obtain rfl | rfl : c = '\\' ∨ c = '"' := by simpa using h
        · rfl
        · rfl
      simp [quotedText, ih, hc]
    · rename_i h
      obtain ⟨hb, hq⟩ : ¬ c = '\\' ∧ ¬ c = '"' := by simpa using h
      rw [List.cons_append, quotedText]
      · simp [hq, ih]
      · intro d tail heq
        exact absurd heq hb

theorem lexeme_text (value : List Char) :
    lexeme '"' (Expr.escape value ++ '"' :: rest) =
      .ok ⟨some (.text, value), (Expr.escape value).length + 1⟩ :=
  (Lexes.text (.inl rfl) (quotedText_escape value)).lexeme_eq

theorem numberWidth_whole {whole : List Char} (hw : ∀ c ∈ whole, c.isDigit = true)
    (hr : Boundary rest) : numberWidth (whole ++ rest) = whole.length := by
  obtain ⟨htake, hdrop⟩ := Text.takeWhile_append hw (hr.head?_eq_false rfl rfl)
  rw [numberWidth, htake, hdrop]
  split
  · have := hr '.' rfl
    simp at this
  · rfl

theorem numberWidth_fraction {whole fraction : List Char} (hw : ∀ c ∈ whole, c.isDigit = true)
    (hf : ∀ c ∈ fraction, c.isDigit = true) (hne : fraction ≠ []) (hr : Boundary rest) :
    numberWidth (whole ++ '.' :: fraction ++ rest) = (whole ++ '.' :: fraction).length := by
  have hpoint : ∀ c ∈ ('.' :: (fraction ++ rest)).head?, c.isDigit = false := by simp
  obtain ⟨htake, hdrop⟩ := Text.takeWhile_append hw hpoint
  obtain ⟨hfraction, -⟩ := Text.takeWhile_append hf (hr.head?_eq_false rfl rfl)
  rw [List.append_assoc, List.cons_append]
  simp only [numberWidth, htake, hdrop, hfraction]
  rw [if_neg (by simpa using hne), List.length_append, List.length_cons]
  omega

theorem lexeme_numeral {negative : Bool} {body : List Char}
    (hd : body.head?.any Char.isDigit = true)
    (hwidth : numberWidth (body ++ rest) = body.length) {c : Char} {cs : List Char}
    (hcs : Numeral.sign negative ++ body = c :: cs) :
    lexeme c (cs ++ rest) = .ok ⟨some (.number, c :: cs), cs.length⟩ := by
  cases negative with
  | true =>
    obtain ⟨rfl, htail⟩ := List.cons.inj hcs
    obtain rfl : cs = body := htail.symm
    have hd : (cs ++ rest).head?.any Char.isDigit = true := by
      cases cs with
      | nil => simp at hd
      | cons d cs => simpa using hd
    rw [(Lexes.negative hd hwidth).lexeme_eq, List.take_left]
  | false =>
    obtain rfl : body = c :: cs := hcs
    rw [List.cons_append] at hwidth
    rw [(Lexes.number (by simpa using hd) hwidth).lexeme_eq, ← List.cons_append, List.take_left]
    rfl

theorem lexeme_number {negative : Bool} {whole : List Char} (hw : ∀ c ∈ whole, c.isDigit = true)
    (hne : whole ≠ []) (hr : Boundary rest) {c : Char} {cs : List Char}
    (hcs : Numeral.sign negative ++ whole = c :: cs) :
    lexeme c (cs ++ rest) = .ok ⟨some (.number, c :: cs), cs.length⟩ := by
  refine lexeme_numeral ?_ (numberWidth_whole hw hr) hcs
  cases whole with
  | nil => exact absurd rfl hne
  | cons d whole => simpa using hw d (List.mem_cons_self ..)

theorem takeWhile_word {word : List Char} (hw : word.all isNameRest = true)
    (hr : Boundary rest) : (word ++ rest).takeWhile isNameRest = word :=
  (Text.takeWhile_append (List.all_eq_true.mp hw) (hr.head?_eq_false rfl rfl)).1

theorem lexeme_word {c : Char} {cs : List Char} (hc : isNameStart c = true)
    (hcs : cs.all isNameRest = true) (hr : Boundary rest) :
    lexeme c (cs ++ rest) = .ok ⟨some (wordKind (c :: cs), c :: cs), cs.length⟩ :=
  (Lexes.word hc (takeWhile_word hcs hr)).lexeme_eq

theorem lexeme_reserved {c : Char} {cs : List Char} (hc : isNameStart c = true)
    (hcs : cs.all isNameRest = true) (hr : Boundary rest) :
    lexeme '@' (c :: cs ++ rest) =
      .ok ⟨some (if c :: cs == "id".toList then .recordId else .name, '@' :: c :: cs),
        cs.length + 1⟩ := by
  have hword : (c :: cs).all isNameRest = true := by
    rw [List.all_cons, isNameRest_of_isNameStart hc, hcs, Bool.and_self]
  exact (Lexes.reserved (by simpa using hc) (takeWhile_word hword hr)).lexeme_eq

theorem lexeme_operator (op : BinaryOp) (rest : List Char) : ∃ c cs, op.symbol.toList = c :: cs ∧
    lexeme c (cs ++ ' ' :: rest) = .ok ⟨some (.operator op, c :: cs), cs.length⟩ := by
  cases op <;> exact ⟨_, _, rfl, rfl⟩

theorem lexeme_not (h : rest.head? ≠ some '=') :
    lexeme '!' rest = .ok ⟨some (.not, ['!']), 0⟩ := by
  have hs : symbol? '!' rest = some (.not, 1) := by
    unfold symbol?
    split <;> simp_all
  change symbol '!' rest = _
  rw [symbol, hs]
  rfl

theorem lexeme_open : lexeme '(' rest = .ok ⟨some (.openParen, ['(']), 0⟩ := rfl

theorem lexeme_close : lexeme ')' rest = .ok ⟨some (.closeParen, [')']), 0⟩ := rfl

theorem lexeme_space : lexeme ' ' rest = .ok ⟨none, 0⟩ := rfl

end Microdata.Lexer
