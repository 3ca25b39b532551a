import Microdata.Value.Basic
import Microdata.Number.Integer
import Microdata.Number.Shortest
import Microdata.Text.Quoted
set_option autoImplicit false

namespace Microdata

/-- The levels to which the parts of a value may be nested while a text is made of it. -/
def Value.room : Nat := 970

def tupleText : List String → String
  | [item] => "(" ++ item ++ ",)"
  | items => "(" ++ ", ".intercalate items ++ ")"

def boolLiteral (b : Bool) : String := if b then "True" else "False"

namespace Key

mutual
def literal : Key → String
  | none => "None"
  | bool b => boolLiteral b
  | int n => toString n
  | float x => x.text
  | text s => Text.quoted s
  | date t => t.literal
  | bytes bs => Text.quotedBytes bs
  | tuple items => tupleText (literals items)

def literals : List Key → List String
  | [] => []
  | k :: rest => k.literal :: literals rest
end

def setText (items : List Key) : String :=
  if items.isEmpty then "set()" else "\x7b" ++ ", ".intercalate (literals items) ++ "\x7d"

def display : Key → String
  | text s => s
  | date t => t.text
  | k => k.literal

mutual
def checkLiteral (room : Nat) : Key → Except Fault Unit
  | int n => (Numeric.writeInteger n).map fun _ => ()
  | tuple items => if room = 0 then .error .tooDeep else checkLiterals (room - 1) items
  | _ => .ok ()

def checkLiterals (room : Nat) : List Key → Except Fault Unit
  | [] => .ok ()
  | k :: rest => do
    k.checkLiteral room
    checkLiterals room rest
end

def shown (k : Key) : Except Fault String := (k.checkLiteral Value.room).map fun _ => k.display

@[simp] theorem shown_text (s : String) : (text s).shown = .ok s := rfl

theorem shown_int {n : Int} (h : n.natAbs < Nat.pow 10 Numeric.maxDigits) :
    (int n).shown = .ok (toString n) := by
  rw [shown, checkLiteral, Numeric.writeInteger_of_lt h]
  rfl

end Key

namespace Element

def literal (e : Element) : String :=
  match e.tag with
  | .named name => "<Element " ++ Text.quoted name ++ ">"
  | .comment => "<Element>"

end Element

namespace Value

mutual
def literal : Value → String
  | none => "None"
  | bool b => boolLiteral b
  | int n => toString n
  | float x => x.text
  | text s => Text.quoted s
  | date t => t.literal
  | bytes bs => Text.quotedBytes bs
  | list items => "[" ++ ", ".intercalate (literals items) ++ "]"
  | tuple items => tupleText (literals items)
  | record fields => "\x7b" ++ ", ".intercalate (fieldLiterals fields) ++ "\x7d"
  | set items => Key.setText items
  | element e => e.literal
  | document d =>
    "Document(root=" ++ d.root.literal ++ ", base_url=" ++ Text.quoted d.base ++ ")"
  | form pairs => "FormData([" ++ ", ".intercalate (pairLiterals pairs) ++ "])"

def literals : List Value → List String
  | [] => []
  | v :: rest => v.literal :: literals rest

def fieldLiterals : List (Key × Value) → List String
  | [] => []
  | (k, v) :: rest => (k.literal ++ ": " ++ v.literal) :: fieldLiterals rest

def pairLiterals : List (String × Value) → List String
  | [] => []
  | (k, v) :: rest => tupleText [Text.quoted k, v.literal] :: pairLiterals rest
end

def display : Value → String
  | text s => s
  | date t => t.text
  | v => v.literal

mutual
/-- Whether a value has a literal. The pairs of a form stand two levels below it, in a list. -/
def checkLiteral (room : Nat) : Value → Except Fault Unit
  | int n => (Numeric.writeInteger n).map fun _ => ()
  | list items => if room = 0 then .error .tooDeep else checkLiterals (room - 1) items
  | tuple items => if room = 0 then .error .tooDeep else checkLiterals (room - 1) items
  | record fields => if room = 0 then .error .tooDeep else checkFields (room - 1) fields
  | set items => if room = 0 then .error .tooDeep else Key.checkLiterals (room - 1) items
  | form pairs => if room < 3 then .error .tooDeep else checkPairs (room - 3) pairs
  | _ => .ok ()

def checkLiterals (room : Nat) : List Value → Except Fault Unit
  | [] => .ok ()
  | v :: rest => do
    v.checkLiteral room
    checkLiterals room rest

def checkFields (room : Nat) : List (Key × Value) → Except Fault Unit
  | [] => .ok ()
  | (k, v) :: rest => do
    k.checkLiteral room
    v.checkLiteral room
    checkFields room rest

def checkPairs (room : Nat) : List (String × Value) → Except Fault Unit
  | [] => .ok ()
  | (_, v) :: rest => do
    v.checkLiteral room
    checkPairs room rest
end

def shownIn (room : Nat) (v : Value) : Except Fault String :=
  (v.checkLiteral room).map fun _ => v.display

def shown (v : Value) : Except Fault String := v.shownIn room

@[simp] theorem shown_text (s : String) : (text s).shown = .ok s := rfl

end Value
end Microdata
