import Microdata.Proofs.Expression.Reading
set_option autoImplicit false

/-!
The grammar of expressions as a relation between tokens and trees: `Derives` has a rule for each
production, and folds the repetitions to the left. Main statements: what is read without an error is
derived (`Reads.derives`), and what is derived is read without an error from any text that does not
go on with an operator of its level (`Derives.reads`).
-/

namespace Microdata

def Expr.bare : Expr → Expr
  | text value _ => .text value .unknown
  | number value _ => .number value .unknown
  | bool value _ => .bool value .unknown
  | name n _ => .name n .unknown
  | recordId _ => .recordId .unknown
  | binary op left right _ => .binary op left.bare right.bare .unknown
  | not operand _ => .not operand.bare .unknown

namespace Parser

def Part.bare : Part → Part
  | operand => operand
  | level l => level l
  | chain l left => chain l left.bare

@[simp] theorem bare_operands (l : Level) : l.operands.bare = l.operands := by
  cases l <;> rfl

inductive Terminal : Token → Expr → Prop
  | text {t : Token} (ht : t.kind = .text) : Terminal t (.text t.value .unknown)
  | number {t : Token} {n : Numeral} (ht : t.kind = .number)
      (hn : Numeral.read? t.value = some n) : Terminal t (.number n.nearest .unknown)
  | bool {t : Token} (ht : t.kind = .bool) : Terminal t (.bool (t.value == "true") .unknown)
  | name {t : Token} (ht : t.kind = .name) : Terminal t (.name t.value .unknown)
  | recordId {t : Token} (ht : t.kind = .recordId) : Terminal t (.recordId .unknown)

/-- The grammar: the tokens that a part derives as an expression, and how deep they nest, with one
level for a negation and five for a pair of parentheses. -/
inductive Derives : Part → Nat → List Token → Expr → Prop
  | level {l : Level} {d d' : Nat} {ts ts' : List Token} {first e : Expr}
      (hfirst : Derives l.operands d ts first) (hmore : Derives (.chain l first) d' ts' e) :
      Derives (.level l) (max d d') (ts ++ ts') e
  | done {l : Level} {left : Expr} : Derives (.chain l left) 0 [] left
  | operator {l : Level} {op : BinaryOp} {t : Token} {d d' : Nat} {ts ts' : List Token}
      {left right e : Expr} (ht : t.kind = .operator op) (hop : l.accepts op = true)
      (hright : Derives l.operands d ts right)
      (hmore : Derives (.chain l (.binary op left right .unknown)) d' ts' e) :
      Derives (.chain l left) (max d d') (t :: (ts ++ ts')) e
  | terminal {t : Token} {e : Expr} (h : Terminal t e) : Derives .operand 0 [t] e
  | negation {t : Token} {d : Nat} {ts : List Token} {e : Expr} (ht : t.kind = .not)
      (he : Derives .operand d ts e) : Derives .operand (d + 1) (t :: ts) (.not e .unknown)
  | group {t c : Token} {d : Nat} {ts : List Token} {e : Expr} (ht : t.kind = .openParen)
      (he : Derives (.level .or) d ts e) (hc : c.kind = .closeParen) :
      Derives .operand (d + 5) (t :: (ts ++ [c])) e

/-- Whether all tokens for numbers spell numerals. -/
def Readable (ts : List Token) : Prop :=
  ∀ t ∈ ts, t.kind = .number → ∃ n, Numeral.read? t.value = some n

theorem terminal_of_leaf? {t : Token} {e : Expr} (h : leaf? t = some e)
    (hn : t.kind = .number → ∃ n, Numeral.read? t.value = some n) : Terminal t e.bare := by
  unfold leaf? at h
  split at h <;> rename_i hk <;> try cases h
  · exact .text hk
  · obtain ⟨n, hn⟩ := hn hk
    simp only [hn, Option.map_some, Option.getD_some, Expr.bare]
    exact .number hk hn
  · exact .bool hk
  · exact .recordId hk
  · exact .name hk

theorem leaf?_of_terminal {t : Token} {e : Expr} (h : Terminal t e) :
    ∃ e', leaf? t = some e' ∧ e'.bare = e := by
  cases h with
  | text ht => exact ⟨.text t.value t.span, by simp only [leaf?, ht], rfl⟩
  | @number n ht hn =>
    exact ⟨.number n.nearest t.span, by simp only [leaf?, ht, hn, Option.map_some,
      Option.getD_some], rfl⟩
  | bool ht => exact ⟨.bool (t.value == "true") t.span, by simp only [leaf?, ht], rfl⟩
  | name ht => exact ⟨.name t.value t.span, by simp only [leaf?, ht], rfl⟩
  | recordId ht => exact ⟨.recordId t.span, by simp only [leaf?, ht], rfl⟩

variable {finish d : Nat} {p : Part} {ts rest : List Token} {e : Expr} {es : List ParseError}

theorem Reads.derives (h : Reads finish p d ts e rest es) (hes : es = []) (hr : Readable ts) :
    ∃ ts', ts = ts' ++ rest ∧ Derives p.bare d ts' e.bare := by
  induction h with
  | level hfirst hmore ihf ihm =>
    obtain ⟨hes, hes'⟩ := List.append_eq_nil_iff.mp hes
    obtain ⟨ts₁, rfl, hf⟩ := ihf hes hr
    obtain ⟨ts₂, rfl, hm⟩ := ihm hes' fun t ht => hr t (List.mem_append_right _ ht)
    rw [bare_operands] at hf
    exact ⟨ts₁ ++ ts₂, (List.append_assoc ..).symm, .level hf hm⟩
  | @operator l op value offset d d' ts rest rest' left right e es es' hop hright hmore ihr ihm =>
    obtain ⟨hes, hes'⟩ := List.append_eq_nil_iff.mp hes
    obtain ⟨ts₁, rfl, hf⟩ := ihr hes fun t ht => hr t (List.mem_cons_of_mem _ ht)
    obtain ⟨ts₂, rfl, hm⟩ := ihm hes' fun t ht =>
      hr t (List.mem_cons_of_mem _ (List.mem_append_right _ ht))
    rw [bare_operands] at hf
    exact ⟨⟨.operator op, value, offset⟩ :: (ts₁ ++ ts₂), by simp, .operator rfl hop hf hm⟩
  | stop h => exact ⟨[], rfl, .done⟩
  | @leaf t ts e h =>
    have ht := terminal_of_leaf? h (hr t (List.mem_cons_self ..))
    exact ⟨[t], rfl, .terminal ht⟩
  | @negation t d ts rest e es ht he ih =>
    obtain ⟨ts', rfl, hd⟩ := ih hes fun t ht => hr t (List.mem_cons_of_mem _ ht)
    exact ⟨t :: ts', rfl, .negation ht hd⟩
  | @group t c d ts rest e es ht he hc ih =>
    obtain ⟨ts', rfl, hd⟩ := ih hes fun t ht => hr t (List.mem_cons_of_mem _ ht)
    exact ⟨t :: (ts' ++ [c]), by simp, .group ht hd hc⟩
  -- every rule that recovers leaves an error behind
  | unclosed | misplaced | missing => simp at hes

/-- Whether no operator that belongs to the part stands at the front. -/
def Level.Ends : Level → List Token → Prop
  | comparison, ts => comparison.takes ts = false
  | and, ts => and.takes ts = false ∧ comparison.takes ts = false
  | or, ts => or.takes ts = false ∧ and.takes ts = false ∧ comparison.takes ts = false

def Part.Ends : Part → List Token → Prop
  | operand, _ => True
  | level l, ts => l.Ends ts
  | chain l _, ts => l.Ends ts

theorem Level.Ends.takes {l : Level} (h : l.Ends ts) : l.takes ts = false := by
  cases l with
  | or => exact h.1
  | and => exact h.1
  | comparison => exact h

theorem Level.Ends.operands {l : Level} (h : l.Ends ts) : l.operands.Ends ts := by
  cases l with
  | or => exact h.2
  | and => exact h.2
  | comparison => trivial

theorem takes_eq_false {l : Level} {t : Token} (h : ∀ op, t.kind ≠ .operator op) :
    l.takes (t :: ts) = false := by
  unfold Level.takes
  split
  · rename_i heq
    cases heq
    exact absurd rfl (h _)
  · rfl

theorem ends_of_not_operator {l : Level} {t : Token} (h : ∀ op, t.kind ≠ .operator op) :
    l.Ends (t :: ts) := by
  cases l with
  | or => exact ⟨takes_eq_false h, takes_eq_false h, takes_eq_false h⟩
  | and => exact ⟨takes_eq_false h, takes_eq_false h⟩
  | comparison => exact takes_eq_false h

theorem ends_operator {l : Level} {op : BinaryOp} {t : Token} (ht : t.kind = .operator op)
    (h : l.accepts op = true) : l.operands.Ends (t :: ts) := by
  obtain ⟨kind, value, offset⟩ := t
  obtain rfl : kind = .operator op := ht
  cases l with
  | or =>
    obtain rfl : op = .or := by simpa [Level.accepts] using h
    exact ⟨rfl, rfl⟩
  | and =>
    obtain rfl : op = .and := by simpa [Level.accepts] using h
    exact rfl
  | comparison => trivial

theorem Derives.ends_append {l : Level} {left : Expr} (h : Derives (.chain l left) d ts e)
    (hrest : l.Ends rest) : l.operands.Ends (ts ++ rest) := by
  cases h with
  | done => exact hrest.operands
  | operator ht hop _ _ => exact ends_operator ht hop

theorem eq_operand_of_bare {q : Part} (h : q.bare = .operand) : q = .operand := by
  cases q <;> simp_all [Part.bare]

theorem eq_level_of_bare {q : Part} {l : Level} (h : q.bare = .level l) : q = .level l := by
  cases q <;> simp_all [Part.bare]

theorem eq_chain_of_bare {q : Part} {l : Level} {left : Expr} (h : q.bare = .chain l left) :
    ∃ left', q = .chain l left' ∧ left'.bare = left := by
  cases q <;> simp_all [Part.bare]

theorem Derives.reads (h : Derives p d ts e) {q : Part} (hq : q.bare = p) (hrest : p.Ends rest) :
    ∃ e', e'.bare = e ∧ Reads finish q d (ts ++ rest) e' rest [] := by
  -- the expression in front of a chain has places once it is read, hence any part that is bare `p`
  induction h generalizing q rest with
  | @level l d d' ts ts' first e hfirst hmore ihf ihm =>
    obtain rfl := eq_level_of_bare hq
    have hends : l.operands.Ends (ts' ++ rest) := hmore.ends_append hrest
    obtain ⟨e₁, he₁, hf⟩ := ihf (bare_operands l) hends
    obtain ⟨e₂, he₂, hm⟩ := ihm (q := .chain l e₁) (by rw [Part.bare, he₁]) hrest
    have hr := Reads.level hf hm
    rw [← List.append_assoc] at hr
    exact ⟨e₂, he₂, hr⟩
  | done =>
    obtain ⟨left, rfl, hleft⟩ := eq_chain_of_bare hq
    exact ⟨left, hleft, .stop hrest.takes⟩
  | @operator l op t d d' ts ts' left right e ht hop hright hmore ihr ihm =>
    obtain ⟨left, rfl, rfl⟩ := eq_chain_of_bare hq
    obtain ⟨kind, value, offset⟩ := t
    obtain rfl : kind = .operator op := ht
    have hends : l.operands.Ends (ts' ++ rest) := hmore.ends_append hrest
    obtain ⟨e₁, rfl, hf⟩ := ihr (bare_operands l) hends
    obtain ⟨e₂, he₂, hm⟩ := ihm (q := .chain l (.join op left e₁)) rfl hrest
    have hr : Reads finish (.chain l left) (max d d')
        (⟨.operator op, value, offset⟩ :: (ts ++ (ts' ++ rest))) e₂ rest ([] ++ []) :=
      .operator hop hf hm
    rw [← List.append_assoc] at hr
    exact ⟨e₂, he₂, hr⟩
  | @terminal t e h =>
    obtain rfl := eq_operand_of_bare hq
    obtain ⟨e', hl, he⟩ := leaf?_of_terminal h
    exact ⟨e', he, .leaf hl⟩
  | negation ht he ih =>
    obtain rfl := eq_operand_of_bare hq
    obtain ⟨e', he', hr⟩ := ih (q := .operand) rfl trivial
    exact ⟨_, by rw [Expr.bare, he'], .negation ht hr⟩
  | @group t c d ts e ht he hc ih =>
    obtain rfl := eq_operand_of_bare hq
    have hends : Level.or.Ends (c :: rest) := ends_of_not_operator fun op => by simp [hc]
    obtain ⟨e', he', hr⟩ := ih (q := .level .or) rfl hends
    have hr := Reads.group ht hr hc
    rw [List.append_cons] at hr
    exact ⟨e', he', hr⟩

variable {l : TokenList}

theorem Derives.ne_nil (h : Derives p d ts e) (hp : ∀ l left, p ≠ .chain l left) : ts ≠ [] := by
  induction h with
  | @level l d d' ts ts' first e _ _ ihf _ =>
    have hts := ihf fun l' left => by cases l <;> simp [Level.operands]
    exact fun h => hts (List.append_eq_nil_iff.mp h).1
  | done => exact absurd rfl (hp _ _)
  | operator | terminal | negation | group => simp

theorem parseTokens_of_derives (h : Derives (.level .or) d l.tokens e) :
    if d ≤ nestingLimit then ∃ e', parseTokens l = .ok e' ∧ e'.bare = e
    else parseTokens l = .error .tooDeep := by
  have hne := h.ne_nil (by simp)
  obtain ⟨e', he, hr⟩ : ∃ e', e'.bare = e ∧
      Reads l.finish (.level .or) d (l.tokens ++ []) e' [] [] := h.reads rfl ⟨rfl, rfl, rfl⟩
  rw [List.append_nil] at hr
  split
  · rename_i hd
    exact ⟨e', by simp [parseTokens_of_reads hne hr hd, trailing], he⟩
  · rename_i hd
    exact parseTokens_tooDeep hne hr (Nat.lt_of_not_le hd)

theorem derives_of_parseTokens (hr : Readable l.tokens) (h : parseTokens l = .ok e) :
    ∃ d, Derives (.level .or) d l.tokens e.bare := by
  obtain ⟨d, e', rest, es, hreads, ⟨-, hp⟩ | ⟨hes, rfl, hp⟩ | ⟨es', -, hp⟩⟩ := parseTokens_cases l
  · cases hp.symm.trans h
  · obtain rfl : e' = e := Except.ok.inj (hp.symm.trans h)
    obtain ⟨ts', hts, hderives⟩ := hreads.derives hes hr
    rw [List.append_nil] at hts
    exact ⟨d, hts ▸ hderives⟩
  · cases hp.symm.trans h

/-- Only tokens that open more levels than the limit are refused as too deep. -/
theorem lt_weight_of_tooDeep (h : parseTokens l = .error .tooDeep) :
    nestingLimit < weight l.tokens := by
  obtain ⟨d, e, rest, es, hreads, ⟨hd, -⟩ | ⟨-, -, hp⟩ | ⟨es', -, hp⟩⟩ := parseTokens_cases l
  · have hle := hreads.depth_le
    omega
  · cases hp.symm.trans h
  · cases hp.symm.trans h

theorem errors_ne_nil (h : parseTokens l = .error (.errors es)) : es ≠ [] := by
  obtain ⟨_, _, _, _, -, ⟨-, hp⟩ | ⟨-, -, hp⟩ | ⟨es', hne, hp⟩⟩ := parseTokens_cases l
  · cases hp.symm.trans h
  · cases hp.symm.trans h
  · cases hp.symm.trans h
    exact hne

end Parser
end Microdata
