import Mathlib.Data.List.Nodup
import Microdata.Proofs.Expression.Derivation
import Microdata.Proofs.Expression.Tiling
set_option autoImplicit false

/-!
The errors of a text that does not parse. Reading never goes back, so errors stand at tokens in the
order of these (`InOrder`), the closing token included. A token that fits nowhere pays for its
error, an opening parenthesis for the closing one that is missing, and an operand that is missing at
the end of the text can be missed there once (`Reads.pays`). Main statement: `errors_in_order`.
-/

namespace Microdata.Parser

/-- Errors at the tokens of a list, one behind the other or at the same token. -/
inductive InOrder : List Token → List ParseError → Prop
  | nil (ts : List Token) : InOrder ts []
  | here {t : Token} {ts : List Token} {es : List ParseError} (problem : ParseProblem)
      (h : InOrder (t :: ts) es) : InOrder (t :: ts) (⟨problem, t⟩ :: es)
  | later {t : Token} {ts : List Token} {es : List ParseError} (h : InOrder ts es) :
      InOrder (t :: ts) es

variable {finish d : Nat} {p : Part} {ts rest : List Token} {e : Expr} {es more : List ParseError}

theorem InOrder.found_mem (h : InOrder ts es) : ∀ e ∈ es, e.found ∈ ts := by
  induction h with
  | nil => exact fun _ he => nomatch he
  | here _ _ ih => exact List.forall_mem_cons.mpr ⟨List.mem_cons_self .., ih⟩
  | later _ ih => exact fun e he => List.mem_cons_of_mem _ (ih e he)

theorem InOrder.pairwise_idxOf (h : InOrder ts es) (hts : ts.Nodup) :
    (es.map fun e => ts.idxOf e.found).Pairwise (· ≤ ·) := by
  induction h with
  | nil => exact .nil
  | here problem _ ih =>
    rw [List.map_cons, List.idxOf_cons_self]
    exact List.pairwise_cons.mpr ⟨fun _ _ => Nat.zero_le _, ih hts⟩
  | @later t ts es h ih =>
    obtain ⟨hfresh, hts⟩ := List.nodup_cons.mp hts
    have hshift : (es.map fun e => (t :: ts).idxOf e.found) =
        (es.map fun e => ts.idxOf e.found).map (· + 1) := by
      rw [List.map_map]
      refine List.map_congr_left fun e he => ?_
      have hne : t ≠ e.found := fun heq => hfresh (heq ▸ h.found_mem e he)
      exact List.idxOf_cons_ne _ hne
    rw [hshift]
    exact (ih hts).map _ fun _ _ => Nat.succ_le_succ

theorem InOrder.at_front (h : InOrder (rest ++ [Token.finish finish]) more)
    (problem : ParseProblem) :
    InOrder (rest ++ [Token.finish finish]) (⟨problem, front finish rest⟩ :: more) := by
  cases rest with
  | nil => exact .here problem h
  | cons t rest => exact .here problem h

theorem Reads.inOrder (h : Reads finish p d ts e rest es)
    (hmore : InOrder (rest ++ [Token.finish finish]) more) :
    InOrder (ts ++ [Token.finish finish]) (es ++ more) := by
  induction h generalizing more with
  | level _ _ ihf ihm =>
    rw [List.append_assoc]
    exact ihf (ihm hmore)
  | operator _ _ _ ihr ihm =>
    rw [List.append_assoc]
    exact .later (ihr (ihm hmore))
  | stop _ => exact hmore
  | leaf _ => exact .later hmore
  | negation _ _ ih => exact .later (ih hmore)
  | group _ _ _ ih => exact .later (ih (.later hmore))
  | unclosed _ _ _ ih =>
    rw [List.append_assoc]
    exact .later (ih (hmore.at_front .missingClose))
  | misplaced _ _ _ => exact .here _ (.later hmore)
  | missing => exact .here _ hmore

theorem inOrder_trailing (rest : List Token) (finish : Nat) :
    InOrder (rest ++ [Token.finish finish]) (trailing rest) := by
  induction rest with
  | nil => exact .nil _
  | cons t rest ih => exact .here .trailing (.later ih)

/-- A number of errors that the tokens between two places can pay for, one each. At the end of the
text there is one more. -/
def Pays (ts : List Token) (n : Nat) (rest : List Token) : Prop :=
  n + rest.length ≤ ts.length + if rest = [] then 1 else 0

/-- The error at the end can be met once, so nothing may be met behind it. -/
theorem Pays.trans {n n' : Nat} {rest' : List Token} (h : Pays ts n rest) (h' : Pays rest n' rest')
    (hend : rest = [] → rest' = [] ∧ n' = 0) : Pays ts (n + n') rest' := by
  by_cases hrest : rest = []
  · obtain ⟨rfl, rfl⟩ := hend hrest
    subst hrest
    exact h
  · unfold Pays at *
    rw [if_neg hrest] at h
    omega

theorem Pays.pass {n : Nat} (h : Pays ts n rest) (t : Token) : Pays (t :: ts) (n + 1) rest := by
  unfold Pays at *
  rw [List.length_cons]
  omega

theorem Pays.mono {n n' : Nat} (h : Pays ts n rest) (hn : n' ≤ n) : Pays ts n' rest := by
  unfold Pays at *
  omega

theorem Pays.refl (ts : List Token) : Pays ts 0 ts := by
  unfold Pays
  omega

theorem Pays.tail {n : Nat} {c : Token} (h : Pays ts n (c :: rest)) : Pays ts n rest := by
  unfold Pays at *
  rw [if_neg (List.cons_ne_nil _ _), List.length_cons] at h
  omega

theorem Reads.chain_nil {l : Level} {left : Expr} (h : Reads finish (.chain l left) d [] e rest es) :
    rest = [] ∧ es = [] := by
  cases h
  exact ⟨rfl, rfl⟩

theorem Reads.pays (h : Reads finish p d ts e rest es) : Pays ts es.length rest := by
  induction h with
  | level _ hmore ihf ihm =>
    rw [List.length_append]
    refine ihf.trans ihm fun hrest => ?_
    subst hrest
    exact hmore.chain_nil.imp id List.length_eq_zero_iff.mpr
  | operator _ _ hmore ihr ihm =>
    rw [List.length_append]
    refine ((ihr.trans ihm fun hrest => ?_).pass _).mono (Nat.le_succ _)
    subst hrest
    exact hmore.chain_nil.imp id List.length_eq_zero_iff.mpr
  | stop _ => exact .refl _
  | leaf _ => exact ((Pays.refl _).pass _).mono (Nat.le_succ _)
  | negation _ _ ih => exact (ih.pass _).mono (Nat.le_succ _)
  | group _ _ _ ih => exact (ih.tail.pass _).mono (Nat.le_succ _)
  | unclosed _ _ _ ih =>
    rw [List.length_append, List.length_singleton]
    exact ih.pass _
  | misplaced _ _ _ => exact (Pays.refl _).pass _
  | missing => exact Nat.le_refl 1

variable {l : TokenList}

theorem errors_of_parseTokens (h : parseTokens l = .error (.errors es)) :
    InOrder l.all es ∧ es.length ≤ l.all.length := by
  by_cases hne : l.tokens = []
  · obtain rfl : [⟨.empty, Token.finish l.finish⟩] = es := by
      simpa using (parseTokens_nil hne).symm.trans h
    rw [TokenList.all, hne]
    exact ⟨.here _ (.nil _), Nat.le_refl 1⟩
  obtain ⟨d, e, rest, found, hreads⟩ := exists_reads l.finish (.level .or) l.tokens
  rcases Nat.lt_or_ge nestingLimit d with hd | hd
  · cases (parseTokens_tooDeep hne hreads hd).symm.trans h
  have hp := (parseTokens_of_reads hne hreads hd).symm.trans h
  split at hp
  · cases hp
  · cases hp
    refine ⟨hreads.inOrder (inOrder_trailing rest l.finish), ?_⟩
    have hpays : found.length + rest.length ≤ l.tokens.length + 1 :=
      Nat.le_trans hreads.pays (Nat.add_le_add_left (by split <;> decide) _)
    rw [trailing, TokenList.all, List.length_append, List.length_append, List.length_map]
    exact hpays

/-- Every text that can be scanned is read to its end: what is read is told with all errors on the
way, and with one for each token that is left. What is refused so has an error at least; the errors
stand at tokens of the text, the closing one included, in the order of these, and there are no more
of them than of those. -/
theorem errors_in_order {source : String} (hl : tokenize source = .ok l) :
    (∃ d e rest es, Reads l.finish (.level .or) d l.tokens e rest es ∧ d ≤ weight l.tokens ∧
      (l.tokens ≠ [] → d ≤ nestingLimit → parseTokens l =
        if (es ++ trailing rest).isEmpty then .ok e else .error (.errors (es ++ trailing rest)))) ∧
    ∀ es, parseTokens l = .error (.errors es) →
      es ≠ [] ∧ (∀ e ∈ es, e.found ∈ l.all) ∧
      (es.map fun e => l.all.idxOf e.found).Pairwise (· ≤ ·) ∧
      es.length ≤ l.all.length := by
  constructor
  · obtain ⟨d, e, rest, es, hreads⟩ := exists_reads l.finish (.level .or) l.tokens
    exact ⟨d, e, rest, es, hreads, Nat.le_of_add_right_le hreads.depth_le,
      fun hne hd => parseTokens_of_reads hne hreads hd⟩
  · intro es h
    obtain ⟨horder, hcount⟩ := errors_of_parseTokens h
    -- tokens of one text differ in their offsets
    have hnodup : l.all.Nodup :=
      (Lexer.pairwise_all hl).imp fun hlt heq => Nat.ne_of_lt hlt (congrArg Token.offset heq)
    exact ⟨errors_ne_nil h, horder.found_mem, horder.pairwise_idxOf hnodup, hcount⟩

def broken : TokenList where
  tokens := [⟨.closeParen, ")", 0⟩, ⟨.operator .and, "&&", 2⟩, ⟨.openParen, "(", 5⟩,
    ⟨.name, "a", 6⟩, ⟨.name, "b", 8⟩]
  finish := 9

def complaints : List ParseError :=
  [⟨.missingOperand, ⟨.closeParen, ")", 0⟩⟩, ⟨.missingClose, ⟨.name, "b", 8⟩⟩,
    ⟨.trailing, ⟨.name, "b", 8⟩⟩]

theorem errors_in_order_broken :
    tokenize ") && (a b" = .ok broken ∧ parseTokens broken = .error (.errors complaints) ∧
      complaints ≠ [] ∧ (∀ e ∈ complaints, e.found ∈ broken.all) ∧
      (complaints.map fun e => broken.all.idxOf e.found) = [0, 4, 4] ∧
      (complaints.map fun e => broken.all.idxOf e.found).Pairwise (· ≤ ·) ∧
      complaints.length ≤ broken.all.length := by
  have hl : tokenize ") && (a b" = .ok broken := by decide +kernel
  have hp : parseTokens broken = .error (.errors complaints) := by decide +kernel
  obtain ⟨hne, hmem, horder, hcount⟩ := (errors_in_order hl).2 complaints hp
  exact ⟨hl, hp, hne, hmem, by decide, horder, hcount⟩

end Microdata.Parser
