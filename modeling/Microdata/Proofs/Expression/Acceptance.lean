import Microdata.Proofs.Expression.Derivation
import Microdata.Proofs.Expression.Scanning
set_option autoImplicit false

namespace Microdata.Parser

theorem readable_of_tokenize {source : String} {l : TokenList} (h : tokenize source = .ok l) :
    Readable l.tokens := by
  obtain ⟨finish, hs⟩ := Lexer.scans_of_tokenize h
  exact fun t ht hk => hs.exists_read? ht hk

/-- Only texts with more nesting than the limit are refused as too deep. Every other text parses as
what the grammar derives, up to places, and is refused with an error if it derives nothing. -/
theorem parseTokens_iff_derives {source : String} {l : TokenList}
    (hl : tokenize source = .ok l) :
    (parseTokens l = .error .tooDeep → nestingLimit < weight l.tokens) ∧
      (parseTokens l ≠ .error .tooDeep →
        (∀ e : Expr, (∃ e', parseTokens l = .ok e' ∧ e'.bare = e.bare) ↔
          ∃ d, Derives (.level .or) d l.tokens e.bare) ∧
        ((∀ (e : Expr) (d : Nat), ¬ Derives (.level .or) d l.tokens e) →
          ∃ es, es ≠ [] ∧ parseTokens l = .error (.errors es))) := by
  refine ⟨lt_weight_of_tooDeep, fun hdeep => ⟨fun e => ⟨?_, ?_⟩, fun hnone => ?_⟩⟩
  · rintro ⟨e', he, hbare⟩
    obtain ⟨d, hd⟩ := derives_of_parseTokens (readable_of_tokenize hl) he
    exact ⟨d, hbare ▸ hd⟩
  · rintro ⟨d, hd⟩
    have h := parseTokens_of_derives hd
    split at h
    · exact h
    · exact absurd h hdeep
  · cases hp : parseTokens l with
    | ok e =>
      obtain ⟨d, hd⟩ := derives_of_parseTokens (readable_of_tokenize hl) hp
      exact absurd hd (hnone _ _)
    | error f =>
      cases f with
      | tooDeep => exact absurd hp hdeep
      | errors es => exact ⟨es, errors_ne_nil hp, rfl⟩

def sample : TokenList where
  tokens := [⟨.name, "a", 0⟩, ⟨.operator .or, "||", 2⟩, ⟨.not, "!", 5⟩, ⟨.openParen, "(", 6⟩,
    ⟨.name, "b", 7⟩, ⟨.operator .lt, "<", 9⟩, ⟨.number, "1", 11⟩, ⟨.closeParen, ")", 12⟩]
  finish := 13

def sampleTree : Expr :=
  .binary .or (.name "a" .unknown)
    (.not (.binary .lt (.name "b" .unknown) (.number (.finite false Binary64.unit) .unknown)
      .unknown) .unknown) .unknown

theorem parseTokens_sample :
    tokenize "a || !(b < 1)" = .ok sample ∧ parseTokens sample ≠ .error .tooDeep ∧
      ∃ d, Derives (.level .or) d sample.tokens sampleTree.bare := by
  have hl : tokenize "a || !(b < 1)" = .ok sample := by decide +kernel
  have hd : parseTokens sample ≠ .error .tooDeep := by decide +kernel
  have hp : (parseTokens sample).map Expr.bare = .ok sampleTree.bare := by decide +kernel
  refine ⟨hl, hd, (((parseTokens_iff_derives hl).2 hd).1 sampleTree).mp ?_⟩
  cases h : parseTokens sample with
  | error f =>
    rw [h] at hp
    cases hp
  | ok e =>
    rw [h] at hp
    exact ⟨e, rfl, Except.ok.inj hp⟩

end Microdata.Parser
