import Microdata.Proofs.Expression.Source
import Microdata.Proofs.Expression.Spans
set_option autoImplicit false

/-!
The leaves of an expression as tokens of its text. The characters of a token are scanned by
themselves as that token (`Scans.exists_place`, `tokenize_extent`), and the range of a leaf covers
them if the token is written as it is held. Only quoted text with an escape is written otherwise: it
is longer than it is held, and a range that is cut to its value leaves it open
(`Quotes.quotedText_cut`). Main statement: `leaf_slices`.
-/

namespace Microdata

/-- The characters of a text in a range. -/
def Span.slice (s : Span) (source : String) : String :=
  String.ofList ((source.toList.drop s.start.toNat).take (s.finish - s.start).toNat)

def Expr.isLeaf : Expr → Bool
  | binary _ _ _ _ | not _ _ => false
  | _ => true

namespace Lexer

variable {quote c : Char} {body text more value extent cs rest : List Char} {kind : TokenKind}
  {offset finish n : Nat} {ts : List Token} {t : Token}

/-- Characters that stand for themselves, in quotes or without. -/
def Verbatim (value extent : List Char) : Prop :=
  extent = value ∨ ∃ quote, extent = quote :: (value ++ [quote])

theorem unescape_eq (h : 2 ≤ (unescape c).length) : unescape c = ['\\', c] := by
  unfold unescape at h ⊢
  split at h <;> first | rfl | exact absurd h (by decide)

theorem Quotes.eq_of_length_le (h : Quotes quote body text) (hlen : body.length ≤ text.length) :
    text = body := by
  induction h with
  | nil => rfl
  | @escaped c body text h ih =>
    have hc := length_unescape_le c
    have hle := h.length_le
    simp only [List.length_append, List.length_cons] at hlen
    rw [unescape_eq (c := c) (by omega), ih (by omega)]
    rfl
  | plain _ _ _ ih => rw [ih (Nat.le_of_succ_le_succ hlen)]

theorem Quotes.quotedText_cut (h : Quotes quote body text) (hq : quote ≠ '\\')
    (hn : n ≤ body.length) : Lexer.quotedText quote (body.take n) = none := by
  induction h generalizing n with
  | nil =>
    rw [List.take_nil]
    rfl
  | @escaped c body text _ ih =>
    match n with
    | 0 => rfl
    | 1 => simp [Lexer.quotedText, Ne.symm hq]
    | n + 2 =>
      have hrest := ih (Nat.le_of_add_le_add_right hn)
      simp [Lexer.quotedText, hrest]
  | @plain c body text hescape hquote _ ih =>
    cases n with
    | zero => rfl
    | succ n =>
      have hrest := ih (Nat.le_of_succ_le_succ hn)
      rw [List.take_succ_cons, Lexer.quotedText]
      · simp [hquote, hrest]
      · exact fun _ _ he => absurd he hescape

theorem lexeme_unterminated (hquote : quote = '"' ∨ quote = '\'')
    (h : quotedText quote cs = none) : lexeme quote cs = .error .unterminated := by
  have hblank : Text.isBlank quote = false := by
    obtain rfl | rfl := hquote <;> decide
  simp [lexeme, hblank, hquote, h]

theorem tokenize_error {problem : LexProblem} (h : lexeme c cs = .error problem) :
    tokenize (String.ofList (c :: cs)) = .error ⟨problem, 0⟩ := by
  rw [tokenize, String.toList_ofList, tokensFrom_error h]
  rfl

theorem Verbatim.length_le (h : Verbatim value extent) : extent.length ≤ value.length + 2 := by
  obtain rfl | ⟨quote, rfl⟩ := h
  · exact Nat.le_add_right _ 2
  · simp

/-- What a token's width covers of its characters: all of them if it is written as it is held.
Otherwise it is quoted text, and what is covered is left open. -/
theorem Extent.take_width (h : Extent kind value extent) {width : Nat}
    (hwidth : width = value.length + if kind = .text then 2 else 0) :
    (kind ≠ .text → Verbatim value extent) ∧
    (Verbatim value extent → extent.take width = extent) ∧
    (¬ Verbatim value extent →
      tokenize (String.ofList (extent.take width)) = .error ⟨.unterminated, 0⟩) := by
  cases h with
  | @quoted quote body text hquote h =>
    rw [if_pos rfl] at hwidth
    subst hwidth
    refine ⟨fun hne => absurd rfl hne, fun hv => List.take_of_length_le hv.length_le, fun hv => ?_⟩
    have hescaped : value.length < body.length := by
      by_contra hle
      exact hv (.inr ⟨quote, by rw [h.eq_of_length_le (Nat.le_of_not_lt hle)]⟩)
    have hopen : quotedText quote (body.take (value.length + 1)) = none := by
      refine h.quotedText_cut ?_ hescaped
      obtain rfl | rfl := hquote <;> decide
    rw [List.take_succ_cons, List.take_append_of_le_length hescaped]
    exact tokenize_error (lexeme_unterminated hquote hopen)
  | @plain _ c cs hkind =>
    have hv : Verbatim (c :: cs) (c :: cs) := .inl rfl
    rw [if_neg hkind, Nat.add_zero] at hwidth
    subst hwidth
    exact ⟨fun _ => hv, fun _ => List.take_length, fun hne => absurd hv hne⟩

theorem Scans.exists_place (h : Scans offset cs ts finish rest) (ht : t ∈ ts) :
    ∃ before c more after value, cs = before ++ c :: (more ++ after) ∧
      t = ⟨t.kind, String.ofList value, offset + before.length⟩ ∧
      lexeme c more = .ok ⟨some (t.kind, value), more.length⟩ ∧
      Extent t.kind value (c :: more) := by
  induction h with
  | done => cases ht
  | @blank offset _ more c cs _ _ hl _ ih =>
    obtain ⟨before, d, tail, after, value, hcs, htoken, hlexeme, hextent⟩ := ih ht
    obtain ⟨-, rfl⟩ := (lexes_of_lexeme hl).isBlank
    obtain rfl : cs = before ++ d :: (tail ++ after) := hcs
    refine ⟨c :: before, d, tail, after, value, rfl, ?_, hlexeme, hextent⟩
    rw [htoken, List.length_cons]
    congr 1
    omega
  | @token offset _ more c cs value _ kind ts hl _ ih =>
    obtain ⟨hmore, hextent⟩ := (lexes_of_lexeme hl).extent
    have hlength : (cs.take more).length = more := List.length_take_of_le hmore
    obtain rfl | ht := List.mem_cons.mp ht
    · have hread : lexeme c (cs.take more) = .ok ⟨some (kind, value), more⟩ :=
        ((lexes_of_lexeme hl).take (Nat.le_refl _)).lexeme_eq
      refine ⟨[], c, cs.take more, cs.drop more, value, ?_, rfl, ?_, hextent⟩
      · rw [List.take_append_drop]
        rfl
      · rw [hread, hlength]
    · obtain ⟨before, d, tail, after, value', hcs, htoken, hlexeme, hextent'⟩ := ih ht
      refine ⟨c :: (cs.take more ++ before), d, tail, after, value', ?_, ?_, hlexeme, hextent'⟩
      · rw [List.cons_append, List.append_assoc, ← hcs, List.take_append_drop]
      · rw [htoken, List.length_cons, List.length_append, hlength]
        congr 1
        omega

theorem tokenize_extent (h : lexeme c more = .ok ⟨some (kind, value), more.length⟩) :
    tokenize (String.ofList (c :: more)) =
      .ok ⟨[⟨kind, String.ofList value, 0⟩], (c :: more).length⟩ := by
  have happend : lexeme c (more ++ []) = .ok ⟨some (kind, value), more.length⟩ := by
    rwa [List.append_nil]
  have hscans : Scans 0 (c :: (more ++ [])) [⟨kind, String.ofList value, 0⟩] _ [] :=
    Expr.scans_token happend
  rw [List.append_nil] at hscans
  have hread : tokenize (String.ofList (c :: more)) =
      .ok ⟨[⟨kind, String.ofList value, 0⟩], (String.ofList (c :: more)).length⟩ :=
    tokenize_of_scans (by rwa [String.toList_ofList])
  rwa [String.length_ofList] at hread

end Lexer

namespace Parser

variable {ts : List Token} {t : Token} {e n : Expr}

theorem Terminal.at (h : Terminal t e) (offset : Nat) : Terminal { t with offset := offset } e := by
  cases h with
  | text ht => exact .text ht
  | number ht hn => exact .number ht hn
  | bool ht => exact .bool ht
  | name ht => exact .name ht
  | recordId ht => exact .recordId ht

theorem nodes_of_leaf? (h : leaf? t = some e) : e.nodes = [e] := by
  unfold leaf? at h
  split at h <;> cases h <;> rfl

theorem Forms.exists_token (h : Forms ts e) (hn : n ∈ e.nodes) (hleaf : n.isLeaf = true) :
    ∃ t ∈ ts, leaf? t = some n := by
  induction h with
  | @leaf t e h =>
    rw [nodes_of_leaf? h] at hn
    obtain rfl := List.mem_singleton.mp hn
    exact ⟨t, by simp, h⟩
  | @join op t ts ts' left right _ _ _ ihl ihr =>
    obtain rfl | hn := List.mem_cons.mp hn
    · cases hleaf
    rcases List.mem_append.mp hn with hn | hn
    · obtain ⟨u, hu, hl⟩ := ihl hn
      exact ⟨u, by simp [hu], hl⟩
    · obtain ⟨u, hu, hl⟩ := ihr hn
      exact ⟨u, by simp [hu], hl⟩
  | @negation t ts e _ _ ih =>
    obtain rfl | hn := List.mem_cons.mp hn
    · cases hleaf
    · obtain ⟨u, hu, hl⟩ := ih hn
      exact ⟨u, by simp [hu], hl⟩
  | @group t c ts e _ _ _ ih =>
    obtain ⟨u, hu, hl⟩ := ih hn
    exact ⟨u, by simp [hu], hl⟩

theorem slice_append {before cs : List Char} {source : String}
    (h : source.toList = before ++ cs) (width : Nat) :
    Span.slice ⟨before.length, before.length + width⟩ source = String.ofList (cs.take width) := by
  have hstart : Int.toNat (before.length : Int) = before.length := rfl
  have hwidth : ((before.length : Int) + width - before.length).toNat = width := by omega
  rw [Span.slice, h, hstart, hwidth, List.drop_left]

/-- Each leaf of an expression that is read from a text stands there as a token of its kind and its
value, which is scanned off its own characters and begins where the range of the leaf does. If the
token is written as it is held, which all are but quoted text with an escape, the range takes up
just these characters; otherwise what it takes up is quoted text that is left open. -/
theorem leaf_slices {source : String} (h : parseExpression source = .ok e) (hn : n ∈ e.nodes)
    (hleaf : n.isLeaf = true) : ∃ (t : Token) (extent : List Char),
      Terminal t n.bare ∧ tokenize (String.ofList extent) = .ok ⟨[t], extent.length⟩ ∧
      0 ≤ n.span.start ∧ extent <+: source.toList.drop n.span.start.toNat ∧
      (t.kind ≠ .text → Lexer.Verbatim t.value.toList extent) ∧
      (Lexer.Verbatim t.value.toList extent → n.span.slice source = String.ofList extent) ∧
      (¬ Lexer.Verbatim t.value.toList extent →
        tokenize (n.span.slice source) = .error ⟨.unterminated, 0⟩) := by
  obtain ⟨l, hl, hforms⟩ := forms_of_parseExpression h
  obtain ⟨finish, hs⟩ := Lexer.scans_of_tokenize hl
  obtain ⟨⟨kind, held, offset⟩, ht, hleaf⟩ := hforms.exists_token hn hleaf
  obtain ⟨before, c, more, after, value, hsource, htoken, hlexeme, hextent⟩ := hs.exists_place ht
  have hterminal := (terminal_of_leaf? hleaf fun hk => hs.exists_read? ht hk).at 0
  have hspan := span_of_leaf? hleaf
  rw [Token.span_eq] at hspan
  cases htoken
  simp only at hextent hterminal
  simp only [Nat.zero_add] at hspan
  have hle := (hextent.width_bounds before.length).2
  have hwidth : (Token.mk kind (String.ofList value) before.length).width =
      value.length + if kind = .text then 2 else 0 := by
    rw [Token.width, String.length_ofList]
  obtain ⟨hplain, hwhole, hopen⟩ := hextent.take_width hwidth
  have hslice := slice_append hsource (Token.width ⟨kind, String.ofList value, before.length⟩)
  rw [← hspan, ← List.cons_append, List.take_append_of_le_length hle] at hslice
  rw [hslice, hspan]
  refine ⟨⟨kind, String.ofList value, 0⟩, c :: more, hterminal, Lexer.tokenize_extent hlexeme,
    Int.natCast_nonneg _, ⟨after, ?_⟩, ?_⟩
  · rw [hsource]
    simp
  · simp only [String.toList_ofList]
    exact ⟨hplain, fun hv => congrArg String.ofList (hwhole hv), hopen⟩

theorem leaf_slices_guarded : parseExpression "!(a == 'b\\'') && c" = .ok guarded ∧
    .name "c" ⟨17, 18⟩ ∈ guarded.nodes ∧
    ∃ l t, tokenize (Span.slice ⟨17, 18⟩ "!(a == 'b\\'') && c") = .ok l ∧ l.tokens = [t] ∧
      Terminal t (.name "c" .unknown) := by
  have hparse : parseExpression "!(a == 'b\\'') && c" = .ok guarded := by decide +kernel
  have hmem : .name "c" ⟨17, 18⟩ ∈ guarded.nodes := by simp [guarded, Expr.nodes]
  obtain ⟨t, extent, hterminal, htoken, -, -, hplain, hslice, -⟩ := leaf_slices hparse hmem rfl
  have hkind : t.kind ≠ .text := by
    intro htext
    generalize hleaf : (Expr.name "c" ⟨17, 18⟩).bare = leaf at hterminal
    cases hterminal with
    | text => cases hleaf
    | number ht | bool ht | name ht | recordId ht => cases htext.symm.trans ht
  refine ⟨hparse, hmem, ⟨[t], extent.length⟩, t, ?_, rfl, hterminal⟩
  rw [← htoken, ← hslice (hplain hkind)]
  rfl

/-- With an escape, a range is too short for the text that it should cover. -/
theorem not_leaf_slices_escape :
    parseExpression "\"a\\\"b\"" = .ok (.text "a\"b" ⟨0, 5⟩) ∧
      ¬ ∃ l t, tokenize (Span.slice ⟨0, 5⟩ "\"a\\\"b\"") = .ok l ∧ l.tokens = [t] ∧
        Terminal t (.text "a\"b" .unknown) := by
  have hopen : tokenize (Span.slice ⟨0, 5⟩ "\"a\\\"b\"") = .error ⟨.unterminated, 0⟩ := by
    decide +kernel
  refine ⟨by decide +kernel, ?_⟩
  rintro ⟨l, t, hl, -, -⟩
  cases hl.symm.trans hopen

end Parser
end Microdata
