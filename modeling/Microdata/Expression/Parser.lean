import Microdata.Expression.Basic
import Microdata.Number.Decimal
import Microdata.Expression.Lexer
set_option autoImplicit false

/-!
The parser of constraint expressions, by recursive descent with one function for each level of
precedence. It never stops at an error: a token that fits nowhere is recorded and passed over, a
closing parenthesis that is missing is recorded and assumed. Only a text without errors yields an
expression. Nesting is bounded by a budget, and an expression beyond it is refused as too deep.
-/

namespace Microdata

inductive ParseProblem where
  | empty
  | trailing
  | missingClose
  | missingOperand
  deriving DecidableEq, Repr

/-- How reading went on: past the token, or as if the missing token were there. -/
inductive Recovery where
  | skip
  | insert
  deriving DecidableEq, Repr

def Recovery.label : Recovery → String
  | skip => "SKIP_TOKEN"
  | insert => "INSERT_MISSING"

structure ParseError where
  problem : ParseProblem
  found : Token
  deriving DecidableEq, Repr

namespace ParseError

def span (e : ParseError) : Span := e.found.span

def operandStart : List TokenKind := [.text, .number, .bool, .name, .recordId, .openParen]

def expected (e : ParseError) : List TokenKind :=
  match e.problem with
  | .empty | .missingOperand => operandStart
  | .trailing => [.finish]
  | .missingClose => [.closeParen]

def recovery (e : ParseError) : Recovery :=
  match e.problem with
  | .empty | .missingClose => .insert
  | .trailing | .missingOperand => .skip

def message (e : ParseError) : String :=
  match e.problem with
  | .empty => "Empty constraint expression"
  | .trailing => "Unexpected token after end of expression"
  | .missingClose => "Expected ')' to close grouped expression"
  | .missingOperand =>
    "Expected operand, got " ++ e.found.kind.label ++ " " ++ Text.quoted e.found.value

def text (e : ParseError) : String :=
  let base := "ParseError at " ++ toString e.span.start ++ ": " ++ e.message
  if e.found.kind = .finish then base
  else base ++ " (found " ++ e.found.kind.label ++ " " ++ Text.quoted e.found.value ++ ")"

def report (source : String) (errors : List ParseError) : String :=
  if errors.isEmpty then "ParseErrorCollection (no errors)"
  else
    "\n".intercalate
      ((toString errors.length ++ " error(s) in constraint " ++ Text.quoted source ++ ":") ::
        errors.map fun e => "  " ++ e.text)

end ParseError

inductive ParseFailure where
  | errors (errors : List ParseError)
  | tooDeep
  deriving DecidableEq, Repr

namespace Parser

/-- An expression read off the front of `input`, what follows it, and the errors met, in order. -/
structure Reading (input : List Token) where
  value : Expr
  rest : List Token
  errors : List ParseError
  length_rest : rest.length ≤ input.length

/-- The levels of nesting that can be read. A negation takes one, a parenthesis `groupCost`. -/
def nestingLimit : Nat := 970

def front (finish : Nat) (ts : List Token) : Token :=
  ts.head?.getD (Token.finish finish)

/-- Operators of one level, each followed by an operand, folded to the left. -/
def chain (accepts : BinaryOp → Bool) (operand : (ts : List Token) → Option (Reading ts))
    (left : Expr) (ts : List Token) : Option (Reading ts) :=
  match ts with
  | ⟨.operator op, value, offset⟩ :: rest =>
    if accepts op then
      match operand rest with
      | none => none
      | some right =>
        match chain accepts operand (.join op left right.value) right.rest with
        | none => none
        | some r =>
          some ⟨r.value, r.rest, right.errors ++ r.errors, by
            have := right.length_rest
            have := r.length_rest
            simp only [List.length_cons]; omega⟩
    else some ⟨left, ⟨.operator op, value, offset⟩ :: rest, [], Nat.le_refl _⟩
  | ts => some ⟨left, ts, [], Nat.le_refl _⟩
termination_by ts.length
decreasing_by
  have := right.length_rest
  simp only [List.length_cons]; omega

/-- One level of precedence: operands joined by the operators that it accepts. -/
def level (accepts : BinaryOp → Bool) (operand : (ts : List Token) → Option (Reading ts))
    (ts : List Token) : Option (Reading ts) :=
  match operand ts with
  | none => none
  | some first =>
    match chain accepts operand first.value first.rest with
    | none => none
    | some r =>
      some ⟨r.value, r.rest, first.errors ++ r.errors, by
        have := first.length_rest
        have := r.length_rest
        omega⟩

def expression (operand : (ts : List Token) → Option (Reading ts)) (ts : List Token) :
    Option (Reading ts) :=
  level (· == .or) (level (· == .and) (level BinaryOp.isComparison operand)) ts

def leaf? (t : Token) : Option Expr :=
  match t.kind with
  | .text => some (.text t.value t.span)
  | .number => some (.number (((Numeral.read? t.value).map Numeral.nearest).getD .nan) t.span)
  | .bool => some (.bool (t.value == "true") t.span)
  | .recordId => some (.recordId t.span)
  | .name => some (.name t.value t.span)
  | _ => none

def placeholder (t : Token) : Expr := .name "<error>" t.span

/-- The end of a group: its closing parenthesis is consumed, or missed. -/
def close (finish : Nat) {ts : List Token} (r : Reading ts) : Reading ts :=
  match h : r.rest with
  | ⟨.closeParen, _, _⟩ :: rest =>
    ⟨r.value, rest, r.errors, by
      have := r.length_rest
      rw [h] at this
      simp only [List.length_cons] at this; omega⟩
  | _ => ⟨r.value, r.rest, r.errors ++ [⟨.missingClose, front finish r.rest⟩], r.length_rest⟩

/-- A reading of what follows `t`, as a reading that starts with `t`. -/
def Reading.after (t : Token) {ts : List Token} (r : Reading ts) (value : Expr) :
    Reading (t :: ts) :=
  ⟨value, r.rest, r.errors, by
    have := r.length_rest
    simp only [List.length_cons]; omega⟩

def operand (finish : Nat) (budget : Nat) (ts : List Token) : Option (Reading ts) :=
  match ts with
  | [] =>
    let t := Token.finish finish
    some ⟨placeholder t, [], [⟨.missingOperand, t⟩], Nat.le_refl _⟩
  | t :: rest =>
    match t.kind with
    | .not =>
      match budget with
      | 0 => none
      | budget + 1 =>
        (operand finish budget rest).map fun r =>
          r.after t (.not r.value ⟨t.offset, r.value.span.finish⟩)
    | .openParen =>
      match budget with
      | budget + 5 =>
        (expression (operand finish budget) rest).map fun r =>
          let r := close finish r
          r.after t r.value
      | _ => none
    | _ =>
      match leaf? t with
      | some e => some ⟨e, rest, [], by simp⟩
      | none => some ⟨placeholder t, rest, [⟨.missingOperand, t⟩], by simp⟩

/-- Every token behind a whole expression is an error. -/
def trailing (ts : List Token) : List ParseError :=
  ts.map fun t => ⟨.trailing, t⟩

end Parser

def parseTokens (l : TokenList) : Except ParseFailure Expr :=
  if l.tokens.isEmpty then .error (.errors [⟨.empty, Token.finish l.finish⟩])
  else
    match Parser.expression (Parser.operand l.finish Parser.nestingLimit) l.tokens with
    | none => .error .tooDeep
    | some r =>
      let errors := r.errors ++ Parser.trailing r.rest
      if errors.isEmpty then .ok r.value else .error (.errors errors)

inductive ExpressionError where
  | lexical (error : LexError)
  | parsing (failure : ParseFailure)
  deriving DecidableEq, Repr

def parseExpression (source : String) : Except ExpressionError Expr :=
  match tokenize source with
  | .error e => .error (.lexical e)
  | .ok l =>
    match parseTokens l with
    | .error f => .error (.parsing f)
    | .ok e => .ok e

end Microdata
