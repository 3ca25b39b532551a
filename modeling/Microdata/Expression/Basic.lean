import Microdata.Expression.Token
import Microdata.Number.Shortest
set_option autoImplicit false

namespace Microdata

inductive Expr where
  | text (value : String) (span : Span)
  | number (value : Binary64) (span : Span)
  | bool (value : Bool) (span : Span)
  | name (name : String) (span : Span)
  | recordId (span : Span)
  | binary (op : BinaryOp) (left right : Expr) (span : Span)
  | not (operand : Expr) (span : Span)
  deriving DecidableEq, Repr

namespace Expr

def span : Expr → Span
  | text _ s | number _ s | bool _ s | name _ s | recordId s | binary _ _ _ s | not _ s => s

def join (op : BinaryOp) (left right : Expr) : Expr :=
  .binary op left right (left.span.merge right.span)

def isBinary : Expr → Bool
  | binary _ _ _ _ => true
  | _ => false

/-- A whole number is written without a point. -/
def numberText (x : Binary64) : String :=
  match x.toInt? with
  | some n => toString n
  | none => x.text

def escape : List Char → List Char
  | [] => []
  | c :: rest => if c == '\\' || c == '"' then '\\' :: c :: escape rest else c :: escape rest

def source : Expr → String
  | text value _ => String.ofList ('"' :: escape value.toList ++ ['"'])
  | number value _ => numberText value
  | bool value _ => if value then "true" else "false"
  | name property _ => property
  | recordId _ => "@id"
  | binary op left right _ =>
    let side (e : Expr) (s : String) := if e.isBinary then "(" ++ s ++ ")" else s
    side left left.source ++ " " ++ op.symbol ++ " " ++ side right right.source
  | not operand _ =>
    "!" ++ if operand.isBinary then "(" ++ operand.source ++ ")" else operand.source

end Expr
end Microdata
