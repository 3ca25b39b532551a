import Microdata.Proofs.Expression.Derivation
import Microdata.Proofs.Expression.Lexemes
import Microdata.Proofs.Number.Integral
set_option autoImplicit false

/-!
The canonical text of an expression reads back as the expression. The text is scanned part by part
into tokens that derive the expression (`scans_source`), and what is derived parses. Main statement:
`parseExpression_source`.
-/

namespace Microdata

inductive Lexer.IsName : String → Prop
  | word {c : Char} {cs : List Char} (hc : isNameStart c = true)
      (hcs : cs.all isNameRest = true) (ht : c :: cs ≠ "true".toList)
      (hf : c :: cs ≠ "false".toList) : IsName (String.ofList (c :: cs))
  | reserved {c : Char} {cs : List Char} (hc : isNameStart c = true)
      (hcs : cs.all isNameRest = true) (hid : c :: cs ≠ "id".toList) :
      IsName (String.ofList ('@' :: c :: cs))

namespace Parser

variable {d d' : Nat} {ts ts' : List Token} {e left right : Expr}

theorem Derives.up {l : Level} (h : Derives l.operands d ts e) : Derives (.level l) d ts e := by
  have hl := Derives.level h .done
  rwa [Nat.max_zero, List.append_nil] at hl

theorem Derives.operands (h : Derives .operand d ts e) (l : Level) :
    Derives l.operands d ts e := by
  cases l with
  | comparison => exact h
  | and => exact .up (l := .comparison) h
  | or => exact .up (l := .and) (.up (l := .comparison) h)

theorem Derives.or {l : Level} (h : Derives (.level l) d ts e) :
    Derives (.level .or) d ts e := by
  cases l with
  | comparison => exact .up (l := .or) (.up (l := .and) h)
  | and => exact .up (l := .or) h
  | or => exact h

theorem exists_accepts (op : BinaryOp) : ∃ l : Level, l.accepts op = true := by
  cases op with
  | or => exact ⟨.or, rfl⟩
  | and => exact ⟨.and, rfl⟩
  | _ => exact ⟨.comparison, rfl⟩

theorem Derives.binary {op : BinaryOp} {t : Token} (ht : t.kind = .operator op)
    (hl : Derives .operand d ts left) (hr : Derives .operand d' ts' right) :
    Derives (.level .or) (max d d') (ts ++ t :: ts') (.binary op left right .unknown) := by
  obtain ⟨l, hop⟩ := exists_accepts op
  have h := Derives.level (hl.operands l) (.operator ht hop (hr.operands l) .done)
  rw [Nat.max_zero, List.append_nil] at h
  exact h.or

end Parser

namespace Expr

open Microdata.Lexer Microdata.Parser

/-- The expressions that can be written: names are such as can be scanned, numbers are whole. -/
inductive Printable : Expr → Prop
  | text (value : String) (s : Span) : Printable (.text value s)
  | number {x : Binary64} {n : Int} (hx : x.IsDouble) (hn : x.toInt? = some n) (s : Span) :
      Printable (.number x s)
  | bool (b : Bool) (s : Span) : Printable (.bool b s)
  | name {n : String} (hn : IsName n) (s : Span) : Printable (.name n s)
  | recordId (s : Span) : Printable (.recordId s)
  | binary {op : BinaryOp} {left right : Expr} (hl : Printable left) (hr : Printable right)
      (s : Span) : Printable (.binary op left right s)
  | not {operand : Expr} (ho : Printable operand) (s : Span) : Printable (.not operand s)

/-- The expression without places, and without the signs of zeros. -/
def canonical : Expr → Expr
  | text value _ => .text value .unknown
  | number x _ => .number x.unsignedZero .unknown
  | bool b _ => .bool b .unknown
  | name n _ => .name n .unknown
  | recordId _ => .recordId .unknown
  | binary op left right _ => .binary op left.canonical right.canonical .unknown
  | not operand _ => .not operand.canonical .unknown

/-- The levels of nesting that an operand in parentheses needs beyond its own. -/
def groupCost (e : Expr) : Nat := if e.isBinary then 5 else 0

def nesting : Expr → Nat
  | binary _ left right _ => max (left.nesting + left.groupCost) (right.nesting + right.groupCost)
  | not operand _ => operand.nesting + operand.groupCost + 1
  | _ => 0

def grouped (e : Expr) : String := if e.isBinary then "(" ++ e.source ++ ")" else e.source

theorem source_binary (op : BinaryOp) (left right : Expr) (s : Span) :
    (binary op left right s).source = left.grouped ++ " " ++ op.symbol ++ " " ++ right.grouped :=
  rfl

theorem source_not (operand : Expr) (s : Span) :
    (not operand s).source = "!" ++ operand.grouped := rfl

def part (e : Expr) : Part := if e.isBinary then .level .or else .operand

theorem scans_token {offset : Nat} {c : Char} {cs value rest : List Char} {kind : TokenKind}
    (h : lexeme c (cs ++ rest) = .ok ⟨some (kind, value), cs.length⟩) :
    Scans offset (c :: (cs ++ rest)) [⟨kind, String.ofList value, offset⟩]
      (offset + 1 + cs.length) rest := by
  refine .token h ?_
  rw [List.drop_left]
  exact .done

/-- What has been scanned from a canonical text: tokens that derive a part as an expression. -/
def Spells (p : Part) (d : Nat) (e : Expr) (cs : List Char) : Prop :=
  ∀ rest, Boundary rest → ∀ offset, ∃ ts finish,
    Scans offset (cs ++ rest) ts finish rest ∧ Derives p d ts e

theorem spells_token (kind : TokenKind) (value : List Char) {c : Char} {cs : List Char} {e : Expr}
    (h : ∀ rest, Boundary rest → lexeme c (cs ++ rest) = .ok ⟨some (kind, value), cs.length⟩)
    (ht : ∀ offset, Terminal ⟨kind, String.ofList value, offset⟩ e) :
    Spells .operand 0 e (c :: cs) := by
  intro rest hr offset
  exact ⟨_, _, scans_token (h rest hr), .terminal (ht offset)⟩

theorem spells_text (value : String) :
    Spells .operand 0 (.text value .unknown) ('"' :: (escape value.toList ++ ['"'])) := by
  refine spells_token .text value.toList (fun rest _ => ?_) fun offset => ?_
  · rw [List.append_assoc, List.length_append]
    exact lexeme_text value.toList
  · rw [String.ofList_toList]
    exact .text rfl

theorem spells_number {x : Binary64} {n : Int} (hx : x.IsDouble) (hn : x.toInt? = some n) :
    Spells .operand 0 (.number x.unsignedZero .unknown) (numberText x).toList := by
  obtain ⟨m, hread, hm⟩ := exists_read?_numberText hx hn
  have hd : ∀ c ∈ Nat.toDigits 10 n.natAbs, c.isDigit = true :=
    fun c hc => Numeral.isDigit_of_mem_toDigits hc
  rw [numberText_eq hn] at hread ⊢
  rw [String.toList_ofList]
  cases hcs : Numeral.sign (decide (n < 0)) ++ Nat.toDigits 10 n.natAbs with
  | nil => exact absurd (List.append_eq_nil_iff.mp hcs).2 Nat.toDigits_ne_nil
  | cons c cs =>
    rw [hcs] at hread
    refine spells_token .number (c :: cs)
      (fun rest hr => lexeme_number hd Nat.toDigits_ne_nil hr hcs) fun offset => ?_
    rw [← hm]
    exact .number rfl hread

theorem spells_bool (b : Bool) :
    Spells .operand 0 (.bool b .unknown) (if b then "true" else "false").toList := by
  cases b with
  | true =>
    change Spells .operand 0 _ ['t', 'r', 'u', 'e']
    exact spells_token .bool ['t', 'r', 'u', 'e']
      (fun rest hr => lexeme_word (by decide) (by decide) hr) fun offset => .bool rfl
  | false =>
    change Spells .operand 0 _ ['f', 'a', 'l', 's', 'e']
    exact spells_token .bool ['f', 'a', 'l', 's', 'e']
      (fun rest hr => lexeme_word (by decide) (by decide) hr) fun offset => .bool rfl

theorem wordKind_eq_name {word : List Char} (ht : word ≠ "true".toList)
    (hf : word ≠ "false".toList) : wordKind word = .name := by
  rw [wordKind, beq_eq_false_iff_ne.mpr ht, beq_eq_false_iff_ne.mpr hf]
  rfl

theorem spells_name {n : String} (hn : IsName n) :
    Spells .operand 0 (.name n .unknown) n.toList := by
  cases hn with
  | word hc hcs ht hf =>
    rw [String.toList_ofList]
    refine spells_token .name _ (fun rest hr => ?_) fun offset => .name rfl
    rw [lexeme_word hc hcs hr, wordKind_eq_name ht hf]
  | reserved hc hcs hid =>
    rw [String.toList_ofList]
    refine spells_token .name _ (fun rest hr => ?_) fun offset => .name rfl
    rw [lexeme_reserved hc hcs hr, beq_eq_false_iff_ne.mpr hid]
    rfl

theorem spells_recordId : Spells .operand 0 (.recordId .unknown) "@id".toList := by
  change Spells .operand 0 _ ['@', 'i', 'd']
  exact spells_token .recordId ['@', 'i', 'd']
    (fun rest hr => lexeme_reserved (by decide) (by decide) hr) fun offset => .recordId rfl

variable {d d' : Nat} {ts : List Token} {e e' left right : Expr} {cs cs' : List Char}

theorem Spells.group (h : Spells (.level .or) d e cs) :
    Spells .operand (d + 5) e ('(' :: (cs ++ [')'])) := by
  intro rest hr offset
  obtain ⟨ts, finish, hs, hd⟩ := h (')' :: rest) (boundary_close rest) (offset + 1)
  have hopen : Scans offset ('(' :: (cs ++ ')' :: rest)) (_ :: ts) finish (')' :: rest) :=
    .token lexeme_open hs
  have hclose : Scans finish (')' :: rest) [_] (finish + 1) rest := .token lexeme_close .done
  have hall := hopen.append hclose
  rw [List.append_cons] at hall
  exact ⟨_, _, hall, .group rfl hd rfl⟩

theorem Spells.not {c : Char} (h : Spells .operand d e (c :: cs)) (hc : c ≠ '=') :
    Spells .operand (d + 1) (.not e .unknown) ('!' :: c :: cs) := by
  intro rest hr offset
  obtain ⟨ts, finish, hs, hd⟩ := h rest hr (offset + 1)
  have hl : lexeme '!' (c :: cs ++ rest) = .ok ⟨some (.not, ['!']), 0⟩ :=
    lexeme_not (by simpa using hc)
  exact ⟨_, _, .token hl hs, .negation rfl hd⟩

theorem exists_scans_operator (op : BinaryOp) (offset : Nat) (rest : List Char) :
    ∃ t finish, t.kind = .operator op ∧
      Scans offset (' ' :: (op.symbol.toList ++ ' ' :: rest)) [t] finish rest := by
  obtain ⟨c, cs, hop, hl⟩ := lexeme_operator op rest
  rw [hop]
  have hspace : Scans (offset + 1 + 0 + 1 + cs.length) (' ' :: rest) [] _ rest :=
    .blank lexeme_space .done
  have hs := (scans_token hl).append hspace
  exact ⟨_, _, rfl, .blank lexeme_space hs⟩

theorem Spells.binary (op : BinaryOp) (hl : Spells .operand d left cs)
    (hr : Spells .operand d' right cs') :
    Spells (.level .or) (max d d') (.binary op left right .unknown)
      (cs ++ ' ' :: (op.symbol.toList ++ ' ' :: cs')) := by
  intro rest hrest offset
  obtain ⟨ts, o₁, hs₁, hd₁⟩ := hl (' ' :: (op.symbol.toList ++ ' ' :: (cs' ++ rest)))
    (boundary_space _) offset
  obtain ⟨t, o₂, ht, hs₂⟩ := exists_scans_operator op o₁ (cs' ++ rest)
  obtain ⟨ts', o₃, hs₃, hd₃⟩ := hr rest hrest o₂
  have hall := hs₁.append (hs₂.append hs₃)
  refine ⟨_, o₃, ?_, .binary ht hd₁ hd₃⟩
  simpa using hall

theorem spells_grouped (h : Spells e.part e.nesting e.canonical e.source.toList) :
    Spells .operand (e.nesting + e.groupCost) e.canonical e.grouped.toList := by
  unfold part at h
  unfold groupCost grouped
  cases hb : e.isBinary with
  | true =>
    rw [hb, if_pos rfl] at h
    rw [if_pos rfl, if_pos rfl]
    simpa using h.group
  | false =>
    rw [hb, if_neg Bool.false_ne_true] at h
    rw [if_neg Bool.false_ne_true, if_neg Bool.false_ne_true]
    exact h

theorem lexeme_equals {cs : List Char} {l : Lexeme} (h : lexeme '=' cs = .ok l) :
    ∃ value, l.token = some (.operator .eq, value) := by
  change symbol '=' cs = .ok l at h
  have hs : symbol? '=' cs = none ∨ symbol? '=' cs = some (.operator .eq, 2) := by
    unfold symbol?
    split <;> simp_all
  rw [symbol] at h
  obtain hs | hs := hs
  · rw [hs] at h
    cases h
  · rw [hs] at h
    cases h
    exact ⟨_, rfl⟩

theorem kind_of_derives_operand {t : Token}
    (h : Derives .operand d (t :: ts) e) (op : BinaryOp) : t.kind ≠ .operator op := by
  intro ht
  cases h with
  | terminal h => cases h <;> simp_all
  | negation hn _ => simp_all
  | group ho _ _ => simp_all

theorem Spells.exists_eq_cons (h : Spells .operand d e cs) :
    ∃ c tail, cs = c :: tail ∧ c ≠ '=' := by
  obtain ⟨ts, finish, hs, hd⟩ := h [] boundary_nil 0
  rw [List.append_nil] at hs
  cases hs with
  | done => exact absurd rfl (hd.ne_nil (by simp))
  | blank hl _ =>
    refine ⟨_, _, rfl, ?_⟩
    rintro rfl
    obtain ⟨value, hv⟩ := lexeme_equals hl
    cases hv
  | token hl _ =>
    refine ⟨_, _, rfl, ?_⟩
    rintro rfl
    obtain ⟨value, hv⟩ := lexeme_equals hl
    cases hv
    exact kind_of_derives_operand hd .eq rfl

theorem spells_source (h : e.Printable) :
    Spells e.part e.nesting e.canonical e.source.toList := by
  induction h with
  | text value s =>
    rw [source, String.toList_ofList]
    exact spells_text value
  | number hx hn s => exact spells_number hx hn
  | bool b s => exact spells_bool b
  | name hn s => exact spells_name hn
  | recordId s => exact spells_recordId
  | @binary op left right hl hr s ihl ihr =>
    have htext : (binary op left right s).source.toList =
        left.grouped.toList ++ ' ' :: (op.symbol.toList ++ ' ' :: right.grouped.toList) := by
      simp [source_binary]
    rw [htext]
    exact .binary op (spells_grouped ihl) (spells_grouped ihr)
  | @not operand ho s ih =>
    have hg := spells_grouped ih
    have htext : (Expr.not operand s).source.toList = '!' :: operand.grouped.toList := by
      simp [source_not]
    obtain ⟨c, cs, hcs, hc⟩ := hg.exists_eq_cons
    rw [htext, hcs]
    rw [hcs] at hg
    exact hg.not hc

theorem derives_of_part (h : Derives e.part d ts e') : Derives (.level .or) d ts e' := by
  unfold part at h
  split at h
  · exact h
  · exact (h.operands .or).up

/-- The canonical text of an expression reads back as the expression, and is refused as too deep
only if it nests deeper than the limit. -/
theorem parseExpression_source {e : Expr} (h : e.Printable) :
    (e.nesting ≤ nestingLimit →
      ∃ e', parseExpression e.source = .ok e' ∧ e'.bare = e.canonical) ∧
    (nestingLimit < e.nesting → parseExpression e.source = .error (.parsing .tooDeep)) := by
  obtain ⟨ts, finish, hs, hd⟩ := spells_source h [] boundary_nil 0
  rw [List.append_nil] at hs
  have htokens := tokenize_of_scans hs
  have hparse := parseTokens_of_derives (l := ⟨ts, e.source.length⟩) (derives_of_part hd)
  constructor
  · intro hle
    rw [if_pos hle] at hparse
    obtain ⟨e', he, hbare⟩ := hparse
    exact ⟨e', by simp only [parseExpression, htokens, he], hbare⟩
  · intro hlt
    rw [if_neg (Nat.not_le.mpr hlt)] at hparse
    simp only [parseExpression, htokens, hparse]

def quoted : Expr :=
  .not (.binary .and (.text "\"" .unknown)
    (.binary .lt (.name "max-age" .unknown) (.number (.finite true (7 * Binary64.unit)) .unknown)
      .unknown) .unknown) .unknown

theorem parseExpression_quoted : quoted.Printable ∧ quoted.nesting ≤ nestingLimit ∧
    ∃ e', parseExpression quoted.source = .ok e' ∧ e'.bare = quoted.canonical := by
  have hname : IsName "max-age" :=
    @IsName.word 'm' ['a', 'x', '-', 'a', 'g', 'e'] (by decide) (by decide) (by decide)
      (by decide)
  have hdouble : (Binary64.finite true (7 * Binary64.unit)).IsDouble :=
    ⟨by decide +kernel, by decide +kernel⟩
  have hint : (Binary64.finite true (7 * Binary64.unit)).toInt? = some (-7) := by decide +kernel
  have hprint : quoted.Printable :=
    .not (.binary (.text _ _) (.binary (.name hname _) (.number hdouble hint _) _) _) _
  have hnest : quoted.nesting ≤ nestingLimit := by decide
  exact ⟨hprint, hnest, (parseExpression_source hprint).1 hnest⟩

end Expr
end Microdata
