import Microdata.Expression.Parser
set_option autoImplicit false

/-!
The parser as a relation. `Reads` says what is read off the front of some tokens: an expression,
what follows it, and the errors met, with one rule for each way on that the parser has. Main
statements: the parser computes the relation as far as its budget reaches (`Reads.readPart_eq`,
`Reads.readPart_none`), all tokens have a reading (`exists_reads`), and a whole text is parsed in
one of three ways (`parseTokens_cases`).
-/

namespace Microdata.Parser

inductive Level where
  | or | and | comparison
  deriving DecidableEq, Repr

/-- What is read: an operand, an expression of one level, or the operators of a level that follow
an expression. -/
inductive Part where
  | operand
  | level (l : Level)
  | chain (l : Level) (left : Expr)

namespace Level

def accepts : Level → BinaryOp → Bool
  | or => (· == .or)
  | and => (· == .and)
  | comparison => BinaryOp.isComparison

def operands : Level → Part
  | or => .level .and
  | and => .level .comparison
  | comparison => .operand

def takes (l : Level) : List Token → Bool
  | ⟨.operator op, _, _⟩ :: _ => l.accepts op
  | _ => false

end Level

def readOperands (finish budget : Nat) : Level → (ts : List Token) → Option (Reading ts)
  | .or => level (· == .and) (level BinaryOp.isComparison (operand finish budget))
  | .and => level BinaryOp.isComparison (operand finish budget)
  | .comparison => operand finish budget

def readPart (finish budget : Nat) : Part → (ts : List Token) → Option (Reading ts)
  | .operand => operand finish budget
  | .level l => level l.accepts (readOperands finish budget l)
  | .chain l left => chain l.accepts (readOperands finish budget l) left

theorem readPart_operands (finish budget : Nat) (l : Level) :
    readPart finish budget l.operands = readOperands finish budget l := by
  cases l <;> rfl

theorem readPart_or (finish budget : Nat) :
    readPart finish budget (.level .or) = expression (operand finish budget) := rfl

/-- A reading of a part off the front of some tokens: how deep it nests, the expression, what
follows it, and the errors. -/
inductive Reads (finish : Nat) :
    Part → Nat → List Token → Expr → List Token → List ParseError → Prop
  | level {l : Level} {d d' : Nat} {ts rest rest' : List Token} {first e : Expr}
      {es es' : List ParseError} (hfirst : Reads finish l.operands d ts first rest es)
      (hmore : Reads finish (.chain l first) d' rest e rest' es') :
      Reads finish (.level l) (max d d') ts e rest' (es ++ es')
  | operator {l : Level} {op : BinaryOp} {value : String} {offset d d' : Nat}
      {ts rest rest' : List Token} {left right e : Expr} {es es' : List ParseError}
      (hop : l.accepts op = true) (hright : Reads finish l.operands d ts right rest es)
      (hmore : Reads finish (.chain l (.join op left right)) d' rest e rest' es') :
      Reads finish (.chain l left) (max d d') (⟨.operator op, value, offset⟩ :: ts) e rest'
        (es ++ es')
  | stop {l : Level} {left : Expr} {ts : List Token} (h : l.takes ts = false) :
      Reads finish (.chain l left) 0 ts left ts []
  | leaf {t : Token} {ts : List Token} {e : Expr} (h : leaf? t = some e) :
      Reads finish .operand 0 (t :: ts) e ts []
  | negation {t : Token} {d : Nat} {ts rest : List Token} {e : Expr} {es : List ParseError}
      (ht : t.kind = .not) (he : Reads finish .operand d ts e rest es) :
      Reads finish .operand (d + 1) (t :: ts) (.not e ⟨t.offset, e.span.finish⟩) rest es
  | group {t c : Token} {d : Nat} {ts rest : List Token} {e : Expr} {es : List ParseError}
      (ht : t.kind = .openParen) (he : Reads finish (.level .or) d ts e (c :: rest) es)
      (hc : c.kind = .closeParen) : Reads finish .operand (d + 5) (t :: ts) e rest es
  | unclosed {t : Token} {d : Nat} {ts rest : List Token} {e : Expr} {es : List ParseError}
      (ht : t.kind = .openParen) (he : Reads finish (.level .or) d ts e rest es)
      (hc : ∀ c ∈ rest.head?, c.kind ≠ .closeParen) :
      Reads finish .operand (d + 5) (t :: ts) e rest
        (es ++ [⟨.missingClose, front finish rest⟩])
  | misplaced {t : Token} {ts : List Token} (hn : t.kind ≠ .not) (hp : t.kind ≠ .openParen)
      (hl : leaf? t = none) :
      Reads finish .operand 0 (t :: ts) (placeholder t) ts [⟨.missingOperand, t⟩]
  | missing : Reads finish .operand 0 [] (placeholder (Token.finish finish)) []
      [⟨.missingOperand, Token.finish finish⟩]

variable {finish budget : Nat} {p : Part} {d : Nat} {ts rest : List Token} {e : Expr}
  {es : List ParseError}

theorem Reads.length_le (h : Reads finish p d ts e rest es) : rest.length ≤ ts.length := by
  induction h with
  | level _ _ ihf ihm => omega
  | operator _ _ _ ihr ihm =>
    simp only [List.length_cons]
    omega
  | stop _ => exact Nat.le_refl _
  | leaf _ => simp
  | negation _ _ ih =>
    simp only [List.length_cons]
    omega
  | group _ _ _ ih =>
    simp only [List.length_cons] at ih ⊢
    omega
  | unclosed _ _ _ ih =>
    simp only [List.length_cons]
    omega
  | misplaced _ _ _ => simp
  | missing => exact Nat.le_refl _

theorem chain_stop {l : Level} {readOperand : (ts : List Token) → Option (Reading ts)}
    {left : Expr} (h : l.takes ts = false) :
    chain l.accepts readOperand left ts = some ⟨left, ts, [], Nat.le_refl _⟩ := by
  rw [chain.eq_def]
  split
  · rename_i op value offset tail
    have ha : l.accepts op = false := h
    simp [ha]
  · rfl

theorem leaf?_eq_some_kind {t : Token} (h : leaf? t = some e) :
    t.kind ≠ .not ∧ t.kind ≠ .openParen := by
  unfold leaf? at h
  constructor <;> intro hk <;> simp [hk] at h

theorem operand_leaf {t : Token} (h : leaf? t = some e) :
    operand finish budget (t :: ts) = some ⟨e, ts, [], Nat.le_succ _⟩ := by
  obtain ⟨hn, hp⟩ := leaf?_eq_some_kind h
  rw [operand.eq_def]
  simp only [h]

theorem operand_misplaced {t : Token} (hn : t.kind ≠ .not) (hp : t.kind ≠ .openParen)
    (hl : leaf? t = none) :
    operand finish budget (t :: ts) =
      some ⟨placeholder t, ts, [⟨.missingOperand, t⟩], Nat.le_succ _⟩ := by
  rw [operand.eq_def]
  simp only [hl]

theorem close_some {c : Token} {tail : List Token} {hle : (c :: tail).length ≤ ts.length}
    (hc : c.kind = .closeParen) :
    close finish (⟨e, c :: tail, es, hle⟩ : Reading ts) =
      ⟨e, tail, es, Nat.le_of_succ_le hle⟩ := by
  obtain ⟨kind, value, offset⟩ := c
  obtain rfl : kind = .closeParen := hc
  rfl

theorem close_none {hle : rest.length ≤ ts.length} (hc : ∀ c ∈ rest.head?, c.kind ≠ .closeParen) :
    close finish (⟨e, rest, es, hle⟩ : Reading ts) =
      ⟨e, rest, es ++ [⟨.missingClose, front finish rest⟩], hle⟩ := by
  unfold close
  split
  · rename_i value offset tail h
    obtain rfl : rest = ⟨.closeParen, value, offset⟩ :: tail := h
    exact absurd rfl (hc _ rfl)
  · rfl

theorem Reads.readPart_eq (h : Reads finish p d ts e rest es) (hd : d ≤ budget) :
    readPart finish budget p ts = some ⟨e, rest, es, h.length_le⟩ := by
  induction h generalizing budget with
  | level hfirst hmore ihf ihm =>
    have hf := ihf (show _ ≤ budget by omega)
    have hm := ihm (show _ ≤ budget by omega)
    rw [readPart_operands] at hf
    simp only [readPart] at hm ⊢
    simp only [Parser.level, hf, hm]
  | operator hop hright hmore ihr ihm =>
    have hr := ihr (show _ ≤ budget by omega)
    have hm := ihm (show _ ≤ budget by omega)
    rw [readPart_operands] at hr
    simp only [readPart] at hm ⊢
    rw [chain.eq_def]
    simp only [hop, if_true, hr, hm]
  | stop h => exact chain_stop h
  | leaf h => exact operand_leaf h
  | negation ht he ih =>
    obtain ⟨budget, rfl⟩ : ∃ n, budget = n + 1 := ⟨budget - 1, by omega⟩
    have he := ih (show _ ≤ budget by omega)
    rw [readPart] at he
    rw [readPart, operand.eq_def]
    simp only [ht, he, Option.map_some, Reading.after]
  | group ht he hc ih =>
    obtain ⟨budget, rfl⟩ : ∃ n, budget = n + 5 := ⟨budget - 5, by omega⟩
    have he := ih (show _ ≤ budget by omega)
    rw [readPart_or] at he
    rw [readPart, operand.eq_def]
    simp only [ht, he, Option.map_some, Reading.after, close_some hc]
  | unclosed ht he hc ih =>
    obtain ⟨budget, rfl⟩ : ∃ n, budget = n + 5 := ⟨budget - 5, by omega⟩
    have he := ih (show _ ≤ budget by omega)
    rw [readPart_or] at he
    rw [readPart, operand.eq_def]
    simp only [ht, he, Option.map_some, Reading.after, close_none hc]
  | misplaced hn hp hl => exact operand_misplaced hn hp hl
  | missing =>
    rw [readPart, operand.eq_def]

theorem Reads.readPart_none (h : Reads finish p d ts e rest es) (hd : budget < d) :
    readPart finish budget p ts = none := by
  induction h generalizing budget with
  | @level l d d' ts rest rest' first e es es' hfirst hmore ihf ihm =>
    rw [readPart, Parser.level]
    -- what nests too deep is the first operand or, if that can be read, what follows it
    rcases Nat.lt_or_ge budget d with hlt | hge
    · have hf := ihf hlt
      rw [readPart_operands] at hf
      simp only [hf]
    · have hf := hfirst.readPart_eq hge
      have hm := ihm (show budget < _ by omega)
      rw [readPart_operands] at hf
      rw [readPart] at hm
      simp only [hf, hm]
  | @operator l op value offset d d' ts rest rest' left right e es es' hop hright hmore ihr ihm =>
    rw [readPart, chain.eq_def]
    simp only [hop, if_true]
    rcases Nat.lt_or_ge budget d with hlt | hge
    · have hr := ihr hlt
      rw [readPart_operands] at hr
      simp only [hr]
    · have hr := hright.readPart_eq hge
      have hm := ihm (show budget < _ by omega)
      rw [readPart_operands] at hr
      rw [readPart] at hm
      simp only [hr, hm]
  | negation ht he ih =>
    rw [readPart, operand.eq_def]
    simp only [ht]
    cases budget with
    | zero => rfl
    | succ budget =>
      have he := ih (show budget < _ by omega)
      rw [readPart] at he
      simp only [he, Option.map_none]
  | group ht he hc ih | unclosed ht he hc ih =>
    rw [readPart, operand.eq_def]
    simp only [ht]
    split
    · rename_i budget
      have he := ih (show budget < _ by omega)
      rw [readPart_or] at he
      simp only [he, Option.map_none]
    · rfl
  | stop | leaf | misplaced | missing => omega

/-- A measure of the parts that can be read of the same tokens. -/
def Part.rank : Part → Nat
  | operand => 0
  | chain _ _ => 0
  | level .comparison => 1
  | level .and => 2
  | level .or => 3

theorem Part.rank_operand : Part.operand.rank = 0 := rfl

theorem Part.rank_chain (l : Level) (left : Expr) : (Part.chain l left).rank = 0 := rfl

theorem Part.rank_or : (Part.level .or).rank = 3 := rfl

theorem Level.rank_operands (l : Level) : l.operands.rank < (Part.level l).rank := by
  cases l <;> decide

theorem Level.rank_operands_le (l : Level) : l.operands.rank ≤ 2 := by
  cases l <;> decide

theorem Level.exists_of_takes {l : Level} (h : l.takes ts = true) :
    ∃ op value offset tail, ts = ⟨.operator op, value, offset⟩ :: tail ∧ l.accepts op = true := by
  unfold takes at h
  split at h
  · exact ⟨_, _, _, _, rfl, h⟩
  · cases h

theorem exists_reads (finish : Nat) (p : Part) (ts : List Token) :
    ∃ d e rest es, Reads finish p d ts e rest es := by
  match p, ts with
  | .level l, ts =>
    have hrank := l.rank_operands
    obtain ⟨d, first, rest, es, hfirst⟩ := exists_reads finish l.operands ts
    have hle := hfirst.length_le
    obtain ⟨d', e, rest', es', hmore⟩ := exists_reads finish (.chain l first) rest
    exact ⟨_, _, _, _, .level hfirst hmore⟩
  | .chain l left, ts =>
    cases hl : l.takes ts with
    | false => exact ⟨_, _, _, _, .stop hl⟩
    | true =>
      obtain ⟨op, value, offset, tail, hts, hop⟩ := Level.exists_of_takes hl
      have hlen : ts.length = tail.length + 1 := by rw [hts, List.length_cons]
      have hrank := l.rank_operands_le
      obtain ⟨d, right, rest, es, hright⟩ := exists_reads finish l.operands tail
      have hle := hright.length_le
      obtain ⟨d', e, rest', es', hmore⟩ := exists_reads finish (.chain l (.join op left right)) rest
      rw [hts]
      exact ⟨_, _, _, _, .operator hop hright hmore⟩
  | .operand, [] => exact ⟨_, _, _, _, .missing⟩
  | .operand, t :: ts =>
    by_cases hn : t.kind = .not
    · obtain ⟨d, e, rest, es, he⟩ := exists_reads finish .operand ts
      exact ⟨_, _, _, _, .negation hn he⟩
    by_cases hp : t.kind = .openParen
    · obtain ⟨d, e, rest, es, he⟩ := exists_reads finish (.level .or) ts
      cases rest with
      | nil => exact ⟨_, _, _, _, .unclosed hp he (by simp)⟩
      | cons c tail =>
        by_cases hc : c.kind = .closeParen
        · exact ⟨_, _, _, _, .group hp he hc⟩
        · exact ⟨_, _, _, _, .unclosed hp he (by simpa using hc)⟩
    cases hl : leaf? t with
    | some e => exact ⟨_, _, _, _, .leaf hl⟩
    | none => exact ⟨_, _, _, _, .misplaced hn hp hl⟩
termination_by 4 * ts.length + p.rank
decreasing_by
  all_goals
    try simp only [List.length_cons, Part.rank_operand, Part.rank_chain, Part.rank_or]
    omega

def cost (t : Token) : Nat :=
  match t.kind with
  | .not => 1
  | .openParen => 5
  | _ => 0

def weight : List Token → Nat
  | [] => 0
  | t :: ts => cost t + weight ts

@[simp] theorem weight_cons (t : Token) (ts : List Token) :
    weight (t :: ts) = cost t + weight ts := rfl

theorem cost_not {t : Token} (h : t.kind = .not) : cost t = 1 := by
  simp [cost, h]

theorem cost_openParen {t : Token} (h : t.kind = .openParen) : cost t = 5 := by
  simp [cost, h]

theorem Reads.depth_le (h : Reads finish p d ts e rest es) : d + weight rest ≤ weight ts := by
  induction h with
  | level _ _ ihf ihm => omega
  | operator _ _ _ ihr ihm =>
    rw [weight_cons]
    omega
  | stop _ => simp
  | leaf _ | misplaced _ _ _ => simp
  | negation ht _ ih =>
    rw [weight_cons, cost_not ht]
    omega
  | group ht _ _ ih =>
    rw [weight_cons] at ih
    rw [weight_cons, cost_openParen ht]
    omega
  | unclosed ht _ _ ih =>
    rw [weight_cons, cost_openParen ht]
    omega
  | missing => simp

variable {l : TokenList}

theorem parseTokens_of_reads (hne : l.tokens ≠ [])
    (h : Reads l.finish (.level .or) d l.tokens e rest es) (hd : d ≤ nestingLimit) :
    parseTokens l =
      if (es ++ trailing rest).isEmpty then .ok e else .error (.errors (es ++ trailing rest)) := by
  have hr := h.readPart_eq hd
  rw [readPart_or] at hr
  simp only [parseTokens, List.isEmpty_iff, hne, if_false, hr]

theorem parseTokens_tooDeep (hne : l.tokens ≠ [])
    (h : Reads l.finish (.level .or) d l.tokens e rest es) (hd : nestingLimit < d) :
    parseTokens l = .error .tooDeep := by
  have hr := h.readPart_none hd
  rw [readPart_or] at hr
  simp only [parseTokens, List.isEmpty_iff, hne, if_false, hr]

theorem parseTokens_nil (h : l.tokens = []) :
    parseTokens l = .error (.errors [⟨.empty, Token.finish l.finish⟩]) := by
  simp [parseTokens, h]

/-- What can become of a text: it nests too deep, it is read whole without an error, or it is
refused with an error at least. -/
theorem parseTokens_cases (l : TokenList) :
    ∃ d e rest es, Reads l.finish (.level .or) d l.tokens e rest es ∧
      (nestingLimit < d ∧ parseTokens l = .error .tooDeep ∨
        es = [] ∧ rest = [] ∧ parseTokens l = .ok e ∨
        ∃ es', es' ≠ [] ∧ parseTokens l = .error (.errors es')) := by
  obtain ⟨d, e, rest, es, hreads⟩ := exists_reads l.finish (.level .or) l.tokens
  refine ⟨d, e, rest, es, hreads, ?_⟩
  by_cases hne : l.tokens = []
  · exact .inr (.inr ⟨_, List.cons_ne_nil _ _, parseTokens_nil hne⟩)
  rcases Nat.lt_or_ge nestingLimit d with hd | hd
  · exact .inl ⟨hd, parseTokens_tooDeep hne hreads hd⟩
  have hp := parseTokens_of_reads hne hreads hd
  by_cases hes : es ++ trailing rest = []
  · rw [if_pos (List.isEmpty_iff.mpr hes)] at hp
    obtain ⟨hnil, hrest⟩ := List.append_eq_nil_iff.mp hes
    exact .inr (.inl ⟨hnil, List.map_eq_nil_iff.mp hrest, hp⟩)
  · rw [if_neg (mt List.isEmpty_iff.mp hes)] at hp
    exact .inr (.inr ⟨_, hes, hp⟩)

end Microdata.Parser
