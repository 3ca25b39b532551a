import Mathlib.Data.List.TakeWhile
import Microdata.Expression.Lexer
import Microdata.Proofs.Number.Numeral
set_option autoImplicit false

/-!
The scanner as a relation. `Lexes` says what may stand at the front of a text, form by form, and
`Scans` which tokens are scanned off the front of a text, with all that follows them in sight, so
that scans of parts make up a scan of the whole (`Scans.append`).
Main statements: the scanner computes the relation (`scans_of_tokenize`, `tokenize_of_scans`), and
every token for a number spells a numeral (`Scans.exists_read?`).
-/

namespace Microdata.Lexer

theorem take_numberWidth {cs : List Char} (h : cs.head?.any Char.isDigit = true) :
    ∃ whole : List Char, whole ≠ [] ∧ (∀ c ∈ whole, c.isDigit = true) ∧
      (cs.take (numberWidth cs) = whole ∨
        ∃ fraction : List Char, (∀ c ∈ fraction, c.isDigit = true) ∧
          cs.take (numberWidth cs) = whole ++ '.' :: fraction) := by
  have hcs := (List.takeWhile_append_dropWhile (p := Char.isDigit) (l := cs)).symm
  have hw : ∀ c ∈ cs.takeWhile Char.isDigit, c.isDigit = true :=
    fun c hc => List.mem_takeWhile_imp hc
  have hne : cs.takeWhile Char.isDigit ≠ [] := by
    cases cs with
    | nil => simp at h
    | cons c cs =>
      have hc : c.isDigit = true := by simpa using h
      simp [hc]
  refine ⟨_, hne, hw, ?_⟩
  unfold numberWidth
  generalize cs.takeWhile Char.isDigit = whole, cs.dropWhile Char.isDigit = rest at hcs ⊢
  subst hcs
  split
  · rename_i rest
    simp only
    split
    · exact .inl List.take_left
    · have hf : ∀ c ∈ rest.takeWhile Char.isDigit, c.isDigit = true :=
        fun c hc => List.mem_takeWhile_imp hc
      have hp : whole ++ '.' :: rest.takeWhile Char.isDigit <+: whole ++ '.' :: rest := by
        simpa using List.takeWhile_prefix Char.isDigit
      have htake := List.prefix_iff_eq_take.mp hp
      rw [List.length_append, List.length_cons, ← Nat.add_assoc] at htake
      rw [Nat.add_right_comm, ← htake]
      exact .inr ⟨_, hf, rfl⟩
  · exact .inl List.take_left

theorem exists_read?_number {cs : List Char} (h : cs.head?.any Char.isDigit = true)
    (negative : Bool) :
    ∃ n, Numeral.read? (String.ofList (Numeral.sign negative ++ cs.take (numberWidth cs))) =
      some n := by
  obtain ⟨whole, hne, hw, heq | ⟨fraction, hf, heq⟩⟩ := take_numberWidth h
  · rw [heq]
    exact ⟨_, Numeral.read?_whole negative hw hne⟩
  · rw [heq]
    exact ⟨_, Numeral.read?_fraction negative hw hne hf⟩

theorem symbol?_kind {c : Char} {rest : List Char} {kind : TokenKind} {n : Nat}
    (h : symbol? c rest = some (kind, n)) : kind ≠ .number := by
  unfold symbol? at h
  split at h <;> cases h <;> simp

theorem wordKind_ne_number (word : List Char) : wordKind word ≠ .number := by
  unfold wordKind
  split <;> simp

/-- The blank or token that stands at the front of a text, and the number of characters behind the
first one that belong to it. -/
inductive Lexes : Char → List Char → Option (TokenKind × List Char) → Nat → Prop
  | blank {c : Char} {cs : List Char} (h : Text.isBlank c = true) : Lexes c cs none 0
  | text {quote : Char} {cs value : List Char} {n : Nat} (hquote : quote = '"' ∨ quote = '\'')
      (h : quotedText quote cs = some (value, n)) : Lexes quote cs (some (.text, value)) n
  | number {c : Char} {cs : List Char} {n : Nat} (h : c.isDigit = true)
      (hn : numberWidth (c :: cs) = n) :
      Lexes c cs (some (.number, (c :: cs).take n)) (n - 1)
  | negative {cs : List Char} {n : Nat} (h : cs.head?.any Char.isDigit = true)
      (hn : numberWidth cs = n) : Lexes '-' cs (some (.number, '-' :: cs.take n)) n
  | word {c : Char} {cs run : List Char} (h : isNameStart c = true)
      (hrun : cs.takeWhile isNameRest = run) :
      Lexes c cs (some (wordKind (c :: run), c :: run)) run.length
  | reserved {cs run : List Char} (h : cs.head?.any isNameStart = true)
      (hrun : cs.takeWhile isNameRest = run) :
      Lexes '@' cs (some (if run == "id".toList then .recordId else .name, '@' :: run)) run.length
  | symbol {c : Char} {cs : List Char} {kind : TokenKind} {n : Nat}
      (h : symbol? c cs = some (kind, n)) : Lexes c cs (some (kind, (c :: cs).take n)) (n - 1)

theorem lexes_of_lexeme {c : Char} {cs : List Char} {token : Option (TokenKind × List Char)}
    {more : Nat} (h : lexeme c cs = .ok ⟨token, more⟩) : Lexes c cs token more := by
  unfold lexeme at h
  split at h
  · rename_i hblank
    cases h
    exact .blank hblank
  split at h
  · rename_i hquote
    split at h
    · rename_i hquoted
      cases h
      exact .text (by simpa using hquote) hquoted
    · cases h
  split at h
  · rename_i hdigit
    cases h
    exact .number hdigit rfl
  split at h
  · rename_i hminus
    cases h
    obtain ⟨hc, hdigit⟩ := Bool.and_eq_true_iff.mp hminus
    obtain rfl := beq_iff_eq.mp hc
    exact .negative hdigit rfl
  split at h
  · rename_i hstart
    cases h
    exact .word hstart rfl
  split at h
  · rename_i hc
    obtain rfl := beq_iff_eq.mp hc
    split at h
    · rename_i hstart
      cases h
      exact .reserved hstart rfl
    · cases h
  · rw [symbol] at h
    split at h
    · rename_i hsymbol
      cases h
      exact .symbol hsymbol
    · cases h

theorem Lexes.exists_read? {c : Char} {cs value : List Char} {more : Nat}
    (h : Lexes c cs (some (.number, value)) more) :
    ∃ n, Numeral.read? (String.ofList value) = some n := by
  generalize htoken : some (TokenKind.number, value) = token at h
  cases h with
  | blank => cases htoken
  | text => cases htoken
  | number hc hn =>
    cases htoken
    rw [← hn]
    exact exists_read?_number (by simpa using hc) false
  | negative hd hn =>
    cases htoken
    rw [← hn]
    exact exists_read?_number hd true
  | word =>
    obtain ⟨hkind, -⟩ := Prod.mk.inj (Option.some.inj htoken)
    exact absurd hkind.symm (wordKind_ne_number _)
  | reserved =>
    obtain ⟨hkind, -⟩ := Prod.mk.inj (Option.some.inj htoken)
    split at hkind <;> cases hkind
  | symbol hs =>
    obtain ⟨hkind, -⟩ := Prod.mk.inj (Option.some.inj htoken)
    exact absurd hkind.symm (symbol?_kind hs)

/-- The tokens that are scanned off the front of a text which stands at an offset, and the offset of
what follows them. -/
inductive Scans : Nat → List Char → List Token → Nat → List Char → Prop
  | done {offset : Nat} {cs : List Char} : Scans offset cs [] offset cs
  | blank {offset finish more : Nat} {c : Char} {cs rest : List Char} {ts : List Token}
      (hl : lexeme c cs = .ok ⟨none, more⟩)
      (h : Scans (offset + 1 + more) (cs.drop more) ts finish rest) :
      Scans offset (c :: cs) ts finish rest
  | token {offset finish more : Nat} {c : Char} {cs value rest : List Char} {kind : TokenKind}
      {ts : List Token} (hl : lexeme c cs = .ok ⟨some (kind, value), more⟩)
      (h : Scans (offset + 1 + more) (cs.drop more) ts finish rest) :
      Scans offset (c :: cs) (⟨kind, String.ofList value, offset⟩ :: ts) finish rest

theorem Scans.append {offset middle finish : Nat} {cs mid rest : List Char} {ts ts' : List Token}
    (h : Scans offset cs ts middle mid) (h' : Scans middle mid ts' finish rest) :
    Scans offset cs (ts ++ ts') finish rest := by
  induction h with
  | done => exact h'
  | blank hl _ ih => exact .blank hl (ih h')
  | token hl _ ih => exact .token hl (ih h')

theorem tokensFrom_nil (offset : Nat) : tokensFrom offset [] = .ok [] := by
  unfold tokensFrom
  rfl

theorem tokensFrom_cons {offset more : Nat} {c : Char} {cs : List Char}
    {token : Option (TokenKind × List Char)} (hl : lexeme c cs = .ok ⟨token, more⟩) :
    tokensFrom offset (c :: cs) = (tokensFrom (offset + 1 + more) (cs.drop more)).map
      fun ts => (token.map fun (kind, value) => ⟨kind, String.ofList value, offset⟩).toList ++ ts := by
  rw [tokensFrom.eq_def]
  simp only [hl]
  cases tokensFrom (offset + 1 + more) (cs.drop more) with
  | error e => rfl
  | ok ts => cases token <;> rfl

theorem tokensFrom_error {offset : Nat} {c : Char} {cs : List Char} {problem : LexProblem}
    (hl : lexeme c cs = .error problem) :
    tokensFrom offset (c :: cs) = .error ⟨problem, offset⟩ := by
  unfold tokensFrom
  simp only [hl]

theorem tokensFrom_of_scans {offset finish : Nat} {cs : List Char} {ts : List Token}
    (h : Scans offset cs ts finish []) : tokensFrom offset cs = .ok ts := by
  generalize hnil : ([] : List Char) = rest at h
  induction h with
  | done =>
    subst hnil
    exact tokensFrom_nil _
  | blank hl _ ih =>
    rw [tokensFrom_cons hl, ih hnil]
    rfl
  | token hl _ ih =>
    rw [tokensFrom_cons hl, ih hnil]
    rfl

theorem scans_of_tokensFrom {offset : Nat} {cs : List Char} {ts : List Token}
    (h : tokensFrom offset cs = .ok ts) : ∃ finish, Scans offset cs ts finish [] := by
  induction offset, cs using tokensFrom.induct generalizing ts with
  | case1 offset =>
    rw [tokensFrom_nil] at h
    cases h
    exact ⟨offset, .done⟩
  | case2 offset c rest problem hl =>
    rw [tokensFrom_error hl] at h
    cases h
  | case3 offset c rest token more hl e he ih =>
    rw [tokensFrom_cons hl, he] at h
    cases h
  | case4 offset c rest more ts' hts hl ih =>
    rw [tokensFrom_cons hl, hts] at h
    cases h
    obtain ⟨finish, hs⟩ := ih hts
    exact ⟨finish, .blank hl hs⟩
  | case5 offset c rest more ts' hts kind value hl ih =>
    rw [tokensFrom_cons hl, hts] at h
    cases h
    obtain ⟨finish, hs⟩ := ih hts
    exact ⟨finish, .token hl hs⟩

/-- In front of an error, tokens are scanned up to a place at which no lexeme stands. -/
theorem scans_of_error {offset : Nat} {cs : List Char} {e : LexError}
    (h : tokensFrom offset cs = .error e) : ∃ ts c rest,
      Scans offset cs ts e.offset (c :: rest) ∧ lexeme c rest = .error e.problem := by
  induction offset, cs using tokensFrom.induct generalizing e with
  | case1 offset =>
    rw [tokensFrom_nil] at h
    cases h
  | case2 offset c rest problem hl =>
    rw [tokensFrom_error hl] at h
    cases h
    exact ⟨[], c, rest, .done, hl⟩
  | case3 offset c rest token more hl e' he ih =>
    rw [tokensFrom_cons hl, he] at h
    cases h
    obtain ⟨ts, d, after, hs, hproblem⟩ := ih he
    cases token with
    | none => exact ⟨ts, d, after, .blank hl hs, hproblem⟩
    | some t => exact ⟨_ :: ts, d, after, .token hl hs, hproblem⟩
  | case4 offset c rest more ts hts hl ih =>
    rw [tokensFrom_cons hl, hts] at h
    cases h
  | case5 offset c rest more ts hts kind value hl ih =>
    rw [tokensFrom_cons hl, hts] at h
    cases h

theorem Scans.exists_read? {offset finish : Nat} {cs rest : List Char} {ts : List Token}
    (h : Scans offset cs ts finish rest) {t : Token} (ht : t ∈ ts) (hk : t.kind = .number) :
    ∃ n, Numeral.read? t.value = some n := by
  induction h with
  | done => cases ht
  | blank _ _ ih => exact ih ht
  | token hl _ ih =>
    obtain rfl | ht := List.mem_cons.mp ht
    · obtain rfl := hk
      exact (lexes_of_lexeme hl).exists_read?
    · exact ih ht

theorem scans_of_tokenize {source : String} {l : TokenList} (h : tokenize source = .ok l) :
    ∃ finish, Scans 0 source.toList l.tokens finish [] := by
  unfold tokenize at h
  cases hts : tokensFrom 0 source.toList with
  | error e =>
    rw [hts] at h
    cases h
  | ok ts =>
    rw [hts] at h
    cases h
    exact scans_of_tokensFrom hts

theorem scans_of_tokenize_error {source : String} {e : LexError} (h : tokenize source = .error e) :
    ∃ ts c rest, Scans 0 source.toList ts e.offset (c :: rest) ∧
      lexeme c rest = .error e.problem := by
  unfold tokenize at h
  cases hts : tokensFrom 0 source.toList with
  | error e' =>
    rw [hts] at h
    cases h
    exact scans_of_error hts
  | ok ts =>
    rw [hts] at h
    cases h

theorem tokenize_of_scans {source : String} {ts : List Token} {finish : Nat}
    (h : Scans 0 source.toList ts finish []) : tokenize source = .ok ⟨ts, source.length⟩ := by
  rw [tokenize, tokensFrom_of_scans h]
  rfl

end Microdata.Lexer
