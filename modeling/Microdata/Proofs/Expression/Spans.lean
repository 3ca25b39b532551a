import Microdata.Proofs.Expression.Reading
import Microdata.Proofs.Expression.Tiling
set_option autoImplicit false

/-!
Where the parts of an expression lie in its text. `Forms` says which tokens make up an expression,
node by node, whatever levels of precedence led there, and all that is read without an error is so
made up (`Reads.forms`). The ranges of tokens lie one behind the other (`Tiles.apart`); by induction
over the tokens of a node, so do the ranges of its operands (`Forms.ordered`). Main statement:
`ranges_nest`.
-/

namespace Microdata

def Token.width (t : Token) : Nat := t.value.length + if t.kind = .text then 2 else 0

theorem Token.span_eq (t : Token) : t.span = ⟨t.offset, t.offset + t.width⟩ := by
  unfold span width
  split <;> simp

namespace Lexer

variable {quote : Char} {kind : TokenKind} {body text value extent cs : List Char} {offset : Nat}
  {ts : List Token} {t : Token}

theorem length_unescape_le (c : Char) : (unescape c).length ≤ 2 := by
  unfold unescape
  split <;> simp

theorem Quotes.length_le (h : Quotes quote body text) : text.length ≤ body.length := by
  induction h with
  | nil => exact Nat.le_refl 0
  | escaped c _ ih =>
    have hc := length_unescape_le c
    simp only [List.length_append, List.length_cons]
    omega
  | plain _ _ _ ih => exact Nat.succ_le_succ ih

theorem Extent.width_bounds (h : Extent kind value extent) (offset : Nat) :
    0 < (Token.mk kind (String.ofList value) offset).width ∧
      (Token.mk kind (String.ofList value) offset).width ≤ extent.length := by
  cases h with
  | quoted _ h =>
    have hle := h.length_le
    simp only [Token.width, String.length_ofList, List.length_append, List.length_cons,
      List.length_nil, if_true]
    omega
  | plain hkind =>
    simp only [Token.width, String.length_ofList, List.length_cons, if_neg hkind]
    omega

theorem Tiles.span_mem (h : Tiles offset cs ts) (ht : t ∈ ts) :
    offset ≤ t.span.start ∧ t.span.start < t.span.finish ∧
      t.span.finish ≤ offset + cs.length := by
  induction h with
  | done => cases ht
  | blank _ _ ih =>
    have := ih ht
    rw [List.length_cons]
    omega
  | @token offset _ _ _ _ _ hextent _ ih =>
    rw [List.length_append]
    obtain rfl | ht := List.mem_cons.mp ht
    · have := hextent.width_bounds offset
      rw [Token.span_eq]
      simp only
      omega
    · have := ih ht
      omega

theorem Tiles.apart (h : Tiles offset cs ts) :
    ts.Pairwise fun t u => t.span.finish ≤ u.span.start := by
  induction h with
  | done => exact .nil
  | blank _ _ ih => exact ih
  | @token offset _ _ _ _ _ hextent h ih =>
    refine List.pairwise_cons.mpr ⟨fun u hu => ?_, ih⟩
    have := hextent.width_bounds offset
    have := h.span_mem hu
    rw [Token.span_eq]
    simp only
    omega

end Lexer

namespace Parser

/-- The tokens that make up an expression: a token for each leaf, an operator between its operands,
a mark in front of what it negates, and parentheses around what they group. -/
inductive Forms : List Token → Expr → Prop
  | leaf {t : Token} {e : Expr} (h : leaf? t = some e) : Forms [t] e
  | join {op : BinaryOp} {t : Token} {ts ts' : List Token} {left right : Expr}
      (ht : t.kind = .operator op) (hl : Forms ts left) (hr : Forms ts' right) :
      Forms (ts ++ t :: ts') (.join op left right)
  | negation {t : Token} {ts : List Token} {e : Expr} (ht : t.kind = .not) (he : Forms ts e) :
      Forms (t :: ts) (.not e ⟨t.offset, e.span.finish⟩)
  | group {t c : Token} {ts : List Token} {e : Expr} (ht : t.kind = .openParen)
      (he : Forms ts e) (hc : c.kind = .closeParen) : Forms (t :: (ts ++ [c])) e

/-- The tokens that make up what is read of a part. A chain goes on with the expression that it
starts from, so its tokens stand behind those of that expression. -/
def Part.Forms : Part → List Token → Expr → Prop
  | chain _ left, ts, e => ∀ before, Parser.Forms before left → Parser.Forms (before ++ ts) e
  | _, ts, e => Parser.Forms ts e

variable {finish d : Nat} {p : Part} {ts rest : List Token} {e : Expr} {es : List ParseError}

theorem forms_operands {l : Level} : l.operands.Forms ts e ↔ Forms ts e := by
  cases l <;> exact Iff.rfl

theorem Reads.forms (h : Reads finish p d ts e rest es) (hes : es = []) :
    ∃ read, ts = read ++ rest ∧ p.Forms read e := by
  induction h with
  | level _ _ ihf ihm =>
    obtain ⟨hes, hes'⟩ := List.append_eq_nil_iff.mp hes
    obtain ⟨read, rfl, hfirst⟩ := ihf hes
    obtain ⟨more, rfl, hmore⟩ := ihm hes'
    exact ⟨read ++ more, (List.append_assoc ..).symm, hmore read (forms_operands.mp hfirst)⟩
  | @operator l op value offset _ _ ts rest rest' left right e _ _ _ _ _ ihr ihm =>
    obtain ⟨hes, hes'⟩ := List.append_eq_nil_iff.mp hes
    obtain ⟨read, rfl, hright⟩ := ihr hes
    obtain ⟨more, rfl, hmore⟩ := ihm hes'
    refine ⟨⟨.operator op, value, offset⟩ :: (read ++ more), by simp, fun before hleft => ?_⟩
    have hjoin : Forms (before ++ ⟨.operator op, value, offset⟩ :: read) (.join op left right) :=
      .join rfl hleft (forms_operands.mp hright)
    have he := hmore _ hjoin
    rwa [List.append_assoc, List.cons_append] at he
  | stop _ =>
    refine ⟨[], rfl, fun before hleft => ?_⟩
    rwa [List.append_nil]
  | leaf h => exact ⟨_, rfl, .leaf h⟩
  | @negation t _ ts rest e _ ht _ ih =>
    obtain ⟨read, rfl, he⟩ := ih hes
    exact ⟨t :: read, rfl, .negation ht he⟩
  | @group t c _ ts rest e _ ht _ hc ih =>
    obtain ⟨read, rfl, he⟩ := ih hes
    exact ⟨t :: (read ++ [c]), by simp, .group ht he hc⟩
  -- every rule that recovers leaves an error behind
  | unclosed | misplaced | missing => simp at hes

theorem forms_of_parseExpression {source : String} (h : parseExpression source = .ok e) :
    ∃ l, tokenize source = .ok l ∧ Forms l.tokens e := by
  unfold parseExpression at h
  split at h
  · cases h
  rename_i l hl
  split at h
  · cases h
  rename_i hp
  cases h
  obtain ⟨d, e', rest, es, hreads, ⟨-, hdeep⟩ | ⟨rfl, rfl, he⟩ | ⟨_, -, herrors⟩⟩ :=
    parseTokens_cases l
  · cases hdeep.symm.trans hp
  · obtain rfl : e' = e := Except.ok.inj (he.symm.trans hp)
    obtain ⟨read, hread, hforms⟩ := hreads.forms rfl
    rw [List.append_nil] at hread
    exact ⟨l, hl, hread ▸ hforms⟩
  · cases herrors.symm.trans hp

theorem span_of_leaf? {t : Token} (h : leaf? t = some e) : e.span = t.span := by
  unfold leaf? at h
  split at h <;> cases h <;> rfl

end Parser

namespace Expr

def nodes : Expr → List Expr
  | binary op left right s => binary op left right s :: (left.nodes ++ right.nodes)
  | not operand s => not operand s :: operand.nodes
  | e => [e]

/-- The range of an expression is not empty, that of a binary node runs from its left operand to its
right one, which lie in order, and that of a negation from its mark to the end of its operand. -/
def IsOrdered : Expr → Prop
  | binary _ left right s => s = ⟨left.span.start, right.span.finish⟩ ∧
      left.span.finish ≤ right.span.start ∧ left.IsOrdered ∧ right.IsOrdered
  | not operand s => s.start < operand.span.start ∧ s.finish = operand.span.finish ∧
      operand.IsOrdered
  | e => e.span.start < e.span.finish

variable {e n : Expr}

@[simp] theorem span_binary (op : BinaryOp) (left right : Expr) (s : Span) :
    (binary op left right s).span = s := rfl

@[simp] theorem span_not (operand : Expr) (s : Span) : (not operand s).span = s := rfl

theorem IsOrdered.start_lt (h : e.IsOrdered) : e.span.start < e.span.finish := by
  induction e with
  | binary op left right s ihl ihr =>
    obtain ⟨rfl, hapart, hl, hr⟩ := h
    have := ihl hl
    have := ihr hr
    rw [span_binary]
    simp only
    omega
  | not operand s ih =>
    obtain ⟨hstart, hfinish, ho⟩ := h
    have := ih ho
    rw [span_not]
    omega
  | text | number | bool | name | recordId => exact h

theorem IsOrdered.of_mem (h : e.IsOrdered) (hn : n ∈ e.nodes) : n.IsOrdered := by
  induction e with
  | binary op left right s ihl ihr =>
    obtain rfl | hn := List.mem_cons.mp hn
    · exact h
    · obtain ⟨-, -, hl, hr⟩ := h
      exact (List.mem_append.mp hn).elim (ihl hl) (ihr hr)
  | not operand s ih =>
    obtain rfl | hn := List.mem_cons.mp hn
    · exact h
    · exact ih h.2.2 hn
  | text | number | bool | name | recordId =>
    obtain rfl := List.mem_singleton.mp hn
    exact h

theorem IsOrdered.within (h : e.IsOrdered) (hn : n ∈ e.nodes) :
    e.span.start ≤ n.span.start ∧ n.span.finish ≤ e.span.finish := by
  induction e with
  | binary op left right s ihl ihr =>
    obtain rfl | hbelow := List.mem_cons.mp hn
    · exact ⟨Int.le_refl _, Int.le_refl _⟩
    · obtain ⟨rfl, hapart, hl, hr⟩ := h
      have := hl.start_lt
      have := hr.start_lt
      rw [span_binary]
      simp only
      rcases List.mem_append.mp hbelow with hn | hn
      · have := ihl hl hn
        omega
      · have := ihr hr hn
        omega
  | not operand s ih =>
    obtain rfl | hn := List.mem_cons.mp hn
    · exact ⟨Int.le_refl _, Int.le_refl _⟩
    · obtain ⟨hstart, hfinish, ho⟩ := h
      have := ih ho hn
      rw [span_not]
      omega
  | text | number | bool | name | recordId =>
    obtain rfl := List.mem_singleton.mp hn
    exact ⟨Int.le_refl _, Int.le_refl _⟩

end Expr

namespace Parser

variable {ts : List Token} {e : Expr}

/-- An expression starts where one of its tokens does, and ends so. -/
structure Spans (ts : List Token) (e : Expr) : Prop where
  start : ∃ t ∈ ts, e.span.start = t.span.start
  finish : ∃ t ∈ ts, e.span.finish = t.span.finish

theorem Spans.mono {ts' : List Token} (h : Spans ts e) (hts : ts ⊆ ts') : Spans ts' e :=
  ⟨h.start.imp fun _ => And.imp_left (@hts _), h.finish.imp fun _ => And.imp_left (@hts _)⟩

theorem span_join (op : BinaryOp) {left right : Expr}
    (hl : left.span.start < left.span.finish) (hr : right.span.start < right.span.finish)
    (h : left.span.finish ≤ right.span.start) :
    (Expr.join op left right).span = ⟨left.span.start, right.span.finish⟩ := by
  have hstart : min left.span.start right.span.start = left.span.start := by omega
  have hfinish : max left.span.finish right.span.finish = right.span.finish := by omega
  rw [Expr.join, Expr.span, Span.merge, hstart, hfinish]

theorem Forms.ordered (h : Forms ts e) (hts : ∀ t ∈ ts, t.span.start < t.span.finish)
    (hapart : ts.Pairwise fun t u => t.span.finish ≤ u.span.start) :
    e.IsOrdered ∧ Spans ts e := by
  induction h with
  | @leaf t e h =>
    have hspan := span_of_leaf? h
    have hleaf : e.IsOrdered := by
      have hlt := hts t (List.mem_singleton_self t)
      rw [← hspan] at hlt
      unfold leaf? at h
      split at h <;> cases h <;> exact hlt
    exact ⟨hleaf, ⟨t, by simp, by rw [hspan]⟩, ⟨t, by simp, by rw [hspan]⟩⟩
  | @join op t ts ts' left right ht hl hr ihl ihr =>
    obtain ⟨hapartl, hapartr, hbetween⟩ := List.pairwise_append.mp hapart
    obtain ⟨hordl, hspanl⟩ := ihl (fun u hu => hts u (by simp [hu])) hapartl
    obtain ⟨hordr, hspanr⟩ := ihr (fun u hu => hts u (by simp [hu])) hapartr.of_cons
    obtain ⟨u, hu, hfinish⟩ := hspanl.finish
    obtain ⟨v, hv, hstart⟩ := hspanr.start
    have horder : left.span.finish ≤ right.span.start := by
      rw [hfinish, hstart]
      exact hbetween u hu v (List.mem_cons_of_mem _ hv)
    have hspan := span_join op hordl.start_lt hordr.start_lt horder
    have hleft : Spans (ts ++ t :: ts') left := hspanl.mono (by simp)
    have hright : Spans (ts ++ t :: ts') right := hspanr.mono (by simp)
    refine ⟨⟨hspan, horder, hordl, hordr⟩, ?_, ?_⟩
    · rw [hspan]
      exact hleft.start
    · rw [hspan]
      exact hright.finish
  | @negation t ts e ht he ih =>
    obtain ⟨hbehind, hapart⟩ := List.pairwise_cons.mp hapart
    obtain ⟨hlt, hts⟩ := List.forall_mem_cons.mp hts
    obtain ⟨hord, hspan⟩ := ih hts hapart
    obtain ⟨u, hu, hstart⟩ := hspan.start
    have hbefore : (t.offset : Int) < e.span.start := by
      rw [hstart]
      exact Int.lt_of_lt_of_le hlt (hbehind u hu)
    exact ⟨⟨hbefore, rfl, hord⟩, ⟨t, by simp, rfl⟩, (hspan.mono (by simp)).finish⟩
  | @group t c ts e ht he hc ih =>
    obtain ⟨-, hapart⟩ := List.pairwise_cons.mp hapart
    obtain ⟨hord, hspan⟩ := ih (fun u hu => hts u (by simp [hu]))
      (List.pairwise_append.mp hapart).1
    exact ⟨hord, hspan.mono (by simp)⟩

/-- The ranges of an expression that is read from a text are not empty and lie in the text, each in
the range of all that it stands below. Operands lie in order, a binary node takes up their ranges
and what is between them, and a negation its mark, which stands in front of its operand. -/
theorem ranges_nest {source : String} (h : parseExpression source = .ok e) :
    (∀ n ∈ e.nodes, 0 ≤ n.span.start ∧ n.span.start < n.span.finish ∧
      n.span.finish ≤ source.length ∧
      ∀ m ∈ n.nodes, n.span.start ≤ m.span.start ∧ m.span.finish ≤ n.span.finish) ∧
    (∀ op left right s, .binary op left right s ∈ e.nodes →
      s = ⟨left.span.start, right.span.finish⟩ ∧ left.span.finish ≤ right.span.start) ∧
    ∀ operand s, .not operand s ∈ e.nodes →
      s.start < operand.span.start ∧ s.finish = operand.span.finish := by
  obtain ⟨l, hl, hforms⟩ := forms_of_parseExpression h
  obtain ⟨-, -, htiles⟩ := (Lexer.tokenize_tiles source).1 l hl
  obtain ⟨hordered, hspans⟩ :=
    hforms.ordered (fun t ht => (htiles.span_mem ht).2.1) htiles.apart
  refine ⟨fun n hn => ?_, fun op left right s hn => ?_, fun operand s hn => ?_⟩
  · obtain ⟨t, ht, hstart⟩ := hspans.start
    obtain ⟨u, hu, hfinish⟩ := hspans.finish
    have hfirst := htiles.span_mem ht
    have hlast := htiles.span_mem hu
    have hwithin := hordered.within hn
    have hnode := hordered.of_mem hn
    have hlength : source.toList.length = source.length := source.length_toList
    exact ⟨by omega, hnode.start_lt, by omega, fun m hm => hnode.within hm⟩
  · obtain ⟨hs, happart, -, -⟩ := hordered.of_mem hn
    exact ⟨hs, happart⟩
  · obtain ⟨hstart, hfinish, -⟩ := hordered.of_mem hn
    exact ⟨hstart, hfinish⟩

def guarded : Expr :=
  .binary .and
    (.not (.binary .eq (.name "a" ⟨2, 3⟩) (.text "b'" ⟨7, 11⟩) ⟨2, 11⟩) ⟨0, 11⟩)
    (.name "c" ⟨17, 18⟩) ⟨0, 18⟩

theorem ranges_nest_guarded :
    parseExpression "!(a == 'b\\'') && c" = .ok guarded ∧
    (∀ n ∈ guarded.nodes, 0 ≤ n.span.start ∧ n.span.start < n.span.finish ∧ n.span.finish ≤ 18 ∧
      ∀ m ∈ n.nodes, n.span.start ≤ m.span.start ∧ m.span.finish ≤ n.span.finish) ∧
    (∀ op left right s, .binary op left right s ∈ guarded.nodes →
      s = ⟨left.span.start, right.span.finish⟩ ∧ left.span.finish ≤ right.span.start) ∧
    ∀ operand s, .not operand s ∈ guarded.nodes →
      s.start < operand.span.start ∧ s.finish = operand.span.finish := by
  have hparse : parseExpression "!(a == 'b\\'') && c" = .ok guarded := by decide +kernel
  have hlength : "!(a == 'b\\'') && c".length = 18 := by decide
  have hnest := ranges_nest hparse
  rw [hlength] at hnest
  exact ⟨hparse, hnest⟩

end Parser
end Microdata
