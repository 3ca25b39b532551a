import Microdata.Text.Quoted
set_option autoImplicit false

namespace Microdata

/-- The half-open range of characters from `start` to `finish`. Offsets are integers, as a range
may also be given relative to a place behind its start. -/
structure Span where
  start : Int
  finish : Int
  deriving DecidableEq, Repr

namespace Span

def unknown : Span := ⟨0, 0⟩

def merge (a b : Span) : Span := ⟨min a.start b.start, max a.finish b.finish⟩

def text (s : Span) : String :=
  "Span(" ++ toString s.start ++ ":" ++ toString s.finish ++ ")"

end Span

inductive BinaryOp where
  | and | or | eq | neq | lt | gt | lte | gte
  deriving DecidableEq, Repr

namespace BinaryOp

def name : BinaryOp → String
  | and => "AND" | or => "OR" | eq => "EQ" | neq => "NEQ"
  | lt => "LT" | gt => "GT" | lte => "LTE" | gte => "GTE"

def symbol : BinaryOp → String
  | and => "&&" | or => "||" | eq => "==" | neq => "!="
  | lt => "<" | gt => ">" | lte => "<=" | gte => ">="

def isComparison : BinaryOp → Bool
  | and | or => false
  | _ => true

end BinaryOp

inductive TokenKind where
  | operator (op : BinaryOp)
  | not | openParen | closeParen | text | number | bool | name | recordId | finish
  deriving DecidableEq, Repr

namespace TokenKind

def label : TokenKind → String
  | operator op => op.name
  | not => "NOT" | openParen => "LPAREN" | closeParen => "RPAREN" | text => "STRING"
  | number => "NUMBER" | bool => "BOOL" | name => "IDENT" | recordId => "AT_ID" | finish => "EOF"

def isOperand : TokenKind → Bool
  | text | number | bool | name | recordId => true
  | _ => false

end TokenKind

/-- A token holds its own text, except that quoted text is held without quotes and escapes. -/
structure Token where
  kind : TokenKind
  value : String
  offset : Nat
  deriving DecidableEq, Repr

namespace Token

def finish (offset : Nat) : Token := ⟨.finish, "", offset⟩

/-- The range that the value takes at the token's offset, quotes included. -/
def span (t : Token) : Span :=
  ⟨t.offset, t.offset + (t.value.length + if t.kind = .text then 2 else 0)⟩

def display (t : Token) : String :=
  "Token(" ++ t.kind.label ++ ", " ++ Text.quoted t.value ++ ", @" ++ toString t.offset ++ ")"

end Token

structure TokenList where
  tokens : List Token
  finish : Nat
  deriving DecidableEq, Repr

def TokenList.all (l : TokenList) : List Token := l.tokens ++ [Token.finish l.finish]

end Microdata
