import Microdata.Console.Emoji
import Microdata.Console.Style
import Microdata.Text.Blank
import Microdata.Text.Split
set_option autoImplicit false

namespace Microdata.Styled

inductive Part where
  | text (cs : List Char)
  | mark (backslashes : Nat) (body : List Char)

def isMarkStart (c : Char) : Bool :=
  ('a' ≤ c && c ≤ 'z') || c == '#' || c == '/' || c == '@'

def mark? (cs : List Char) : Option (List Char × List Char) :=
  if cs.head?.any isMarkStart then Text.cut? ']' cs else none

def backslashes (cs : List Char) : Nat := (cs.reverse.takeWhile (· == '\\')).length

def dropEnd (n : Nat) (cs : List Char) : List Char := cs.take (cs.length - n)

/-- The parts of a text that has been cut at its opening brackets; `done` is the beginning of the
part that is being read, and `before` what stands in it between the last bracket and the next. -/
def partsFrom (done before : List Char) : List (List Char) → List Part
  | [] => [.text (done ++ before)]
  | piece :: rest =>
    let n := backslashes before
    match mark? piece with
    | some (body, after) => .text (done ++ dropEnd n before) :: .mark n body :: partsFrom [] after rest
    | none => partsFrom (done ++ before ++ ['[']) piece rest

def parts (s : String) : List Part :=
  match Text.split '[' s.toList with
  | [] => []
  | piece :: rest => partsFrom [] piece rest

def Part.extent : Part → Nat
  | text cs => cs.length
  | mark n body => n + body.length + 2

def unescaped : List Char → List Char
  | '\\' :: '[' :: rest => '[' :: unescaped rest
  | c :: rest => c :: unescaped rest
  | [] => []

def plain (cs : List Char) : List Char := Console.Emoji.replace (unescaped cs)

def bracketed (n : Nat) (body : List Char) : List Char :=
  List.replicate n '\\' ++ Console.Emoji.replace ('[' :: body ++ [']'])

def styleName (body : List Char) : String := String.ofList (body.takeWhile (· != '='))

/-- Why a text cannot be read: a mark at some place ends a style that is not in force, or no style
at all, or its name has a number that cannot be read. -/
inductive Problem where
  | unopened (body : String) (place : Nat)
  | nothingToClose (place : Nat)
  | number (f : Fault)
  deriving DecidableEq, Repr

def Problem.message : Problem → String
  | unopened body place =>
    "closing tag '[" ++ body ++ "]' at position " ++ toString place ++ " doesn't match any open tag"
  | nothingToClose place =>
    "closing tag '[/]' at position " ++ toString place ++ " has nothing to close"
  | number f => f.message

def close? (name : String) : List String → Option (List String)
  | [] => none
  | n :: rest => if n == name then some rest else (close? name rest).map (n :: ·)

def normalName (name : String) : Except Problem String :=
  (Console.Style.normal name).mapError .number

def switched (styles : List String) (place : Nat) (body : List Char) :
    Except Problem (List String) :=
  match body with
  | '/' :: rest =>
    let name := Text.strip (styleName rest)
    if name = "" then
      if styles.isEmpty then .error (.nothingToClose place) else .ok styles.tail
    else do
      match close? (← normalName name) styles with
      | some styles => .ok styles
      | none => .error (.unopened (String.ofList body) place)
  | _ => do .ok ((← normalName (styleName body)) :: styles)

/-- What can be read of parts from some place on, while some styles are in force. -/
def shownParts (styles : List String) (place : Nat) : List Part → Except Problem (List Char)
  | [] => .ok []
  | .text cs :: rest => do
    .ok (plain cs ++ (← shownParts styles (place + (Part.text cs).extent) rest))
  | .mark n body :: rest => do
    let next := place + (Part.mark n body).extent
    if n % 2 = 1 then .ok (bracketed (n / 2) body ++ (← shownParts styles next rest))
    else
      let styles ← switched styles (place + n) body
      .ok (List.replicate (n / 2) '\\' ++ (← shownParts styles next rest))

def shown (s : String) : Except Problem String :=
  (shownParts [] 0 (parts s)).map String.ofList

def pictured (s : String) : String := String.ofList (Console.Emoji.replace s.toList)

def literalPart : Part → List Char
  | .text cs => plain cs
  | .mark n body => bracketed n body

def literal (s : String) : String :=
  let cs := s.toList
  String.ofList ((parts s).flatMap literalPart ++ if backslashes cs == 1 then ['\\'] else [])

end Microdata.Styled
