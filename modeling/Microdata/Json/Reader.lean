import Microdata.Number.Decimal
import Microdata.Number.Digits
import Microdata.ReadError
import Microdata.Value.Basic
set_option autoImplicit false

/-!
Reading JSON text. A number without point and exponent is an integer of any size; the names of the
infinities and of no number are read too. Of two entries with one name the later value counts, in
the place of the earlier one.
-/

namespace Microdata.Json

def isSpace (c : Char) : Bool := c == ' ' || c == '\n' || c == '\t' || c == '\r'

def skipSpace (cs : List Char) : List Char := cs.dropWhile isSpace

def codeUnit? : List Char → Option (Nat × List Char)
  | a :: b :: c :: d :: rest => do
    let a ← Numeric.hexValue? a
    let b ← Numeric.hexValue? b
    let c ← Numeric.hexValue? c
    let d ← Numeric.hexValue? d
    some (((a * 16 + b) * 16 + c) * 16 + d, rest)
  | _ => none

/-- The character that a code unit gives, with the second half of a pair if it needs one. A half
that stands alone is replaced. -/
def escapedUnit? (cs : List Char) : Option (Char × List Char) := do
  let (u, rest) ← codeUnit? cs
  let alone := if 0xD800 ≤ u && u < 0xE000 then '\ufffd' else Char.ofNat u
  if 0xD800 ≤ u && u < 0xDC00 then
    match rest with
    | '\\' :: 'u' :: second =>
      let (v, after) ← codeUnit? second
      if 0xDC00 ≤ v && v < 0xE000 then
        some (Char.ofNat (0x10000 + (u - 0xD800) * 0x400 + (v - 0xDC00)), after)
      else some (alone, rest)
    | _ => some (alone, rest)
  else some (alone, rest)

def escaped? : List Char → Option (Char × List Char)
  | '"' :: rest => some ('"', rest)
  | '\\' :: rest => some ('\\', rest)
  | '/' :: rest => some ('/', rest)
  | 'b' :: rest => some ('\x08', rest)
  | 'f' :: rest => some ('\x0c', rest)
  | 'n' :: rest => some ('\n', rest)
  | 'r' :: rest => some ('\r', rest)
  | 't' :: rest => some ('\t', rest)
  | 'u' :: rest => escapedUnit? rest
  | _ => none

def string? : (fuel : Nat) → List Char → Option (List Char × List Char)
  | _, [] => none
  | 0, _ => none
  | fuel + 1, c :: rest =>
    if c == '"' then some ([], rest)
    else if c == '\\' then do
      let (e, rest) ← escaped? rest
      let (text, rest) ← string? fuel rest
      some (e :: text, rest)
    else if c.toNat < 32 then none
    else do
      let (text, rest) ← string? fuel rest
      some (c :: text, rest)

def fraction (cs : List Char) : List Nat × List Char :=
  match cs with
  | '.' :: rest =>
    let (ds, after) := Numeral.spanDigits rest
    if ds.isEmpty then ([], cs) else (ds, after)
  | _ => ([], cs)

def exponent (cs : List Char) : Option Int × List Char :=
  match cs with
  | c :: rest =>
    if c == 'e' || c == 'E' then
      let (negative, rest) := Numeral.spanSign rest
      let (ds, after) := Numeral.spanDigits rest
      if ds.isEmpty then (none, cs)
      else (some (if negative then -(Numeral.ofDigits ds) else Numeral.ofDigits ds), after)
    else (none, cs)
  | [] => (none, cs)

/-- A number without its sign. An integer may have only so many digits. -/
def number (negative : Bool) (cs : List Char) : Except ReadError (Value × List Char) :=
  let (whole, rest) := match cs with
    | '0' :: rest => ([0], rest)
    | cs => Numeral.spanDigits cs
  if whole.isEmpty then .error .malformed
  else
    let (ds, rest) := fraction rest
    let (e, rest) := exponent rest
    if ds.isEmpty && e.isNone then
      if Numeric.maxDigits < whole.length then .error (.fault (.numeralTooLong whole.length))
      else
        let n : Int := Numeral.ofDigits whole
        .ok (.int (if negative then -n else n), rest)
    else
      let e : Int := e.getD 0
      .ok (.float (Numeral.nearest (.decimal negative (whole ++ ds) (e - ds.length))), rest)

def words : List (List Char × Value) :=
  [("null".toList, .none), ("true".toList, .bool true), ("false".toList, .bool false),
    ("NaN".toList, .float .nan), ("Infinity".toList, .float (.inf false)),
    ("-Infinity".toList, .float (.inf true))]

def word? (cs : List Char) : Option (Value × List Char) :=
  (words.find? fun w => w.1.isPrefixOf cs).map fun w => (w.2, cs.drop w.1.length)

mutual
def value : (fuel : Nat) → List Char → Except ReadError (Value × List Char)
  | 0, _ => .error .malformed
  | fuel + 1, cs =>
    match cs with
    | '"' :: rest => do
      let (s, rest) ← need (string? cs.length rest)
      .ok (.text (String.ofList s), rest)
    | '\x7b' :: rest =>
      match skipSpace rest with
      | '\x7d' :: rest => .ok (.record [], rest)
      | rest => do
        let (fs, rest) ← fields fuel [] rest
        .ok (.record fs, rest)
    | '[' :: rest =>
      match skipSpace rest with
      | ']' :: rest => .ok (.list [], rest)
      | rest => do
        let (vs, rest) ← items fuel rest
        .ok (.list vs, rest)
    | '-' :: rest => match word? cs with
      | some r => .ok r
      | none => number true rest
    | cs => match word? cs with
      | some r => .ok r
      | none => number false cs

def items : (fuel : Nat) → List Char → Except ReadError (List Value × List Char)
  | 0, _ => .error .malformed
  | fuel + 1, cs => do
    let (v, rest) ← value fuel cs
    match skipSpace rest with
    | ',' :: rest =>
      let (vs, rest) ← items fuel (skipSpace rest)
      .ok (v :: vs, rest)
    | ']' :: rest => .ok ([v], rest)
    | _ => .error .malformed

def fields : (fuel : Nat) → Fields → List Char → Except ReadError (Fields × List Char)
  | 0, _, _ => .error .malformed
  | fuel + 1, known, cs =>
    match cs with
    | '"' :: rest => do
      let (name, rest) ← need (string? rest.length rest)
      match skipSpace rest with
      | ':' :: rest =>
        let (v, rest) ← value fuel (skipSpace rest)
        let known := known.put (String.ofList name) v
        match skipSpace rest with
        | ',' :: rest => fields fuel known (skipSpace rest)
        | '\x7d' :: rest => .ok (known, rest)
        | _ => .error .malformed
      | _ => .error .malformed
    | _ => .error .malformed
end

def read (s : String) : Except ReadError Value := do
  let cs := skipSpace s.toList
  let (v, rest) ← value (2 * cs.length + 2) cs
  if (skipSpace rest).isEmpty then .ok v else .error .malformed

end Microdata.Json
