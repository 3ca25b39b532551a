import Microdata.Expression.Token
import Microdata.Text.Blank
set_option autoImplicit false

/-!
The scanner of constraint expressions. `lexeme` reads one blank or token off the front of a text and
says how many characters it took; `tokensFrom` repeats it. A minus sign in front of a digit belongs
to the number, since the language has no subtraction.
-/

namespace Microdata

inductive LexProblem where
  | unexpected (c : Char)
  | unterminated
  | missingName
  deriving DecidableEq, Repr

def LexProblem.message : LexProblem → String
  | unexpected c => "Unexpected character " ++ Text.quoted (String.singleton c)
  | unterminated => "Unterminated string literal"
  | missingName => "Expected a name after '@'"

structure LexError where
  problem : LexProblem
  offset : Nat
  deriving DecidableEq, Repr

def LexError.message (e : LexError) : String :=
  "LexError at " ++ toString e.offset ++ ": " ++ e.problem.message

namespace Lexer

def isNameStart (c : Char) : Bool := c.isAlpha || c == '_'

def isNameRest (c : Char) : Bool := c.isAlphanum || c == '_' || c == '-'

def unescape : Char → List Char
  | 'n' => ['\n']
  | 't' => ['\t']
  | 'r' => ['\r']
  | '\\' => ['\\']
  | '"' => ['"']
  | '\'' => ['\'']
  | c => ['\\', c]

/-- The text up to the closing quote, and the number of characters read, the quote included. -/
def quotedText (quote : Char) : List Char → Option (List Char × Nat)
  | [] => none
  | '\\' :: c :: rest => (quotedText quote rest).map fun (text, n) => (unescape c ++ text, n + 2)
  | c :: rest =>
    if c == quote then some ([], 1)
    else (quotedText quote rest).map fun (text, n) => (c :: text, n + 1)

/-- The length of digits with an optional point between digits. -/
def numberWidth (cs : List Char) : Nat :=
  let whole := (cs.takeWhile Char.isDigit).length
  match cs.dropWhile Char.isDigit with
  | '.' :: rest =>
    let fraction := (rest.takeWhile Char.isDigit).length
    if fraction == 0 then whole else whole + 1 + fraction
  | _ => whole

def wordKind (word : List Char) : TokenKind :=
  if word == "true".toList || word == "false".toList then .bool else .name

def symbol? : Char → List Char → Option (TokenKind × Nat)
  | '=', '=' :: _ => some (.operator .eq, 2)
  | '!', '=' :: _ => some (.operator .neq, 2)
  | '<', '=' :: _ => some (.operator .lte, 2)
  | '>', '=' :: _ => some (.operator .gte, 2)
  | '&', '&' :: _ => some (.operator .and, 2)
  | '|', '|' :: _ => some (.operator .or, 2)
  | '<', _ => some (.operator .lt, 1)
  | '>', _ => some (.operator .gt, 1)
  | '!', _ => some (.not, 1)
  | '(', _ => some (.openParen, 1)
  | ')', _ => some (.closeParen, 1)
  | _, _ => none

/-- What stands at the front of a text: a token with its value, or nothing for a blank; and the
number of characters behind the first one that belong to it. -/
structure Lexeme where
  token : Option (TokenKind × List Char)
  more : Nat

def symbol (c : Char) (rest : List Char) : Except LexProblem Lexeme :=
  match symbol? c rest with
  | some (kind, n) => .ok ⟨some (kind, (c :: rest).take n), n - 1⟩
  | none => .error (.unexpected c)

def lexeme (c : Char) (rest : List Char) : Except LexProblem Lexeme :=
  if Text.isBlank c then .ok ⟨none, 0⟩
  else if c == '"' || c == '\'' then
    match quotedText c rest with
    | some (text, n) => .ok ⟨some (.text, text), n⟩
    | none => .error .unterminated
  else if c.isDigit then
    let n := numberWidth (c :: rest)
    .ok ⟨some (.number, (c :: rest).take n), n - 1⟩
  else if c == '-' && (rest.head?.any Char.isDigit) then
    let n := numberWidth rest
    .ok ⟨some (.number, c :: rest.take n), n⟩
  else if isNameStart c then
    let word := c :: rest.takeWhile isNameRest
    .ok ⟨some (wordKind word, word), word.length - 1⟩
  else if c == '@' then
    if rest.head?.any isNameStart then
      let word := rest.takeWhile isNameRest
      .ok ⟨some (if word == "id".toList then .recordId else .name, c :: word), word.length⟩
    else .error .missingName
  else symbol c rest

def tokensFrom (offset : Nat) : List Char → Except LexError (List Token)
  | [] => .ok []
  | c :: rest =>
    match lexeme c rest with
    | .error problem => .error ⟨problem, offset⟩
    | .ok ⟨token, more⟩ =>
      match tokensFrom (offset + 1 + more) (rest.drop more) with
      | .error e => .error e
      | .ok ts =>
        match token with
        | none => .ok ts
        | some (kind, value) => .ok (⟨kind, String.ofList value, offset⟩ :: ts)
termination_by cs => cs.length
decreasing_by simp only [List.length_drop, List.length_cons]; omega

end Lexer

def tokenize (source : String) : Except LexError TokenList :=
  (Lexer.tokensFrom 0 source.toList).map fun ts => ⟨ts, source.length⟩

end Microdata
