import Microdata.Value.Literal
import Microdata.Number.Integer
set_option autoImplicit false

namespace Microdata.Json

inductive Layout where
  | line
  | indented (width : Nat)

def escapedChar (c : Char) : List Char :=
  if c == '"' then ['\\', '"']
  else if c == '\\' then ['\\', '\\']
  else if c == '\n' then ['\\', 'n']
  else if c == '\r' then ['\\', 'r']
  else if c == '\t' then ['\\', 't']
  else if c == '\x08' then ['\\', 'b']
  else if c == '\x0c' then ['\\', 'f']
  else if c.toNat < 32 then '\\' :: 'u' :: Text.hexDigits 4 c.toNat
  else [c]

def stringText (s : String) : String :=
  String.ofList ('"' :: s.toList.flatMap escapedChar ++ ['"'])

def numberText : Binary64 → String
  | .nan => "NaN"
  | .inf negative => if negative then "-Infinity" else "Infinity"
  | x => x.text

def boolText (b : Bool) : String := if b then "true" else "false"

def keyText : Key → Except Fault String
  | .none => .ok "null"
  | .bool b => .ok (boolText b)
  | .int n => Numeric.writeInteger n
  | .float x => .ok (numberText x)
  | .text s => .ok s
  | .date t => .error (.keyKind (if t.time.isSome then "datetime" else "date"))
  | .bytes _ => .error (.keyKind "bytes")
  | .tuple _ => .error (.keyKind "tuple")

def lineEnd (width depth : Nat) : String :=
  String.ofList ('\n' :: List.replicate (width * depth) ' ')

def bracket (layout : Layout) (depth : Nat) (start stop : String) (entries : List String) :
    String :=
  if entries.isEmpty then start ++ stop
  else match layout with
    | .line => start ++ ", ".intercalate entries ++ stop
    | .indented width =>
      start ++ lineEnd width (depth + 1) ++
        ("," ++ lineEnd width (depth + 1)).intercalate entries ++ lineEnd width depth ++ stop

mutual
/-- The value as JSON text, if it is not nested to more levels than the limit. -/
def write (layout : Layout) (limit depth : Nat) : Value → Except Fault String
  | .none => .ok "null"
  | .bool b => .ok (boolText b)
  | .int n => Numeric.writeInteger n
  | .float x => .ok (numberText x)
  | .text s => .ok (stringText s)
  | .date t => .ok (stringText t.text)
  | .bytes bs => .ok (stringText (Text.quotedBytes bs))
  | .list items =>
    if limit ≤ depth then .error .tooDeep
    else do .ok (bracket layout depth "[" "]" (← writeItems layout limit (depth + 1) items))
  | .tuple items =>
    if limit ≤ depth then .error .tooDeep
    else do .ok (bracket layout depth "[" "]" (← writeItems layout limit (depth + 1) items))
  | .record fields =>
    if limit ≤ depth then .error .tooDeep
    else do .ok (bracket layout depth "\x7b" "\x7d" (← writeFields layout limit (depth + 1) fields))
  | .set items => do .ok (stringText (← (Value.set items).shownIn (limit - depth)))
  | .element e => .ok (stringText e.literal)
  | .document d => .ok (stringText (Value.document d).literal)
  | .form pairs => do .ok (stringText (← (Value.form pairs).shownIn (limit - depth)))

def writeItems (layout : Layout) (limit depth : Nat) : List Value → Except Fault (List String)
  | [] => .ok []
  | v :: rest => do
    let first ← write layout limit depth v
    .ok (first :: (← writeItems layout limit depth rest))

def writeFields (layout : Layout) (limit depth : Nat) :
    List (Key × Value) → Except Fault (List String)
  | [] => .ok []
  | (k, v) :: rest => do
    let key ← keyText k
    let value ← write layout limit depth v
    .ok ((stringText key ++ ": " ++ value) :: (← writeFields layout limit depth rest))
end

mutual
/-- The first part of a value that JSON has no form for is a fault. -/
def check (limit : Nat) : Value → Except Fault Unit
  | .none => .ok ()
  | .bool _ => .ok ()
  | .int n => (Numeric.writeInteger n).map fun _ => ()
  | .float _ => .ok ()
  | .text _ => .ok ()
  | .list items => if limit = 0 then .error .tooDeep else checkItems (limit - 1) items
  | .tuple items => if limit = 0 then .error .tooDeep else checkItems (limit - 1) items
  | .record fields => if limit = 0 then .error .tooDeep else checkFields (limit - 1) fields
  | v => .error (.noJson v.kindName)

def checkItems (limit : Nat) : List Value → Except Fault Unit
  | [] => .ok ()
  | v :: rest => do
    check limit v
    checkItems limit rest

def checkFields (limit : Nat) : List (Key × Value) → Except Fault Unit
  | [] => .ok ()
  | (k, v) :: rest => do
    let _ ← keyText k
    check limit v
    checkFields limit rest
end

def line (v : Value) (limit : Nat := Value.room) : Except Fault String := write .line limit 0 v

def plainLine (v : Value) : Except Fault String := do
  check Value.room v
  line v

end Microdata.Json
