import Microdata.Fault
import Microdata.Markup.Names
import Microdata.Number.Digits
set_option autoImplicit false

namespace Microdata.Markup

def named? (name : String) : Option (List Char) :=
  match name with
  | "amp" => some ['&']
  | "lt" => some ['<']
  | "gt" => some ['>']
  | "quot" => some ['"']
  | _ =>
    match (namesFrom (name.toList.headD ' ')).find? fun p => p.1 == name with
    | some (_, n) => some [Char.ofNat n]
    | none => (pairs.find? fun p => p.1 == name).map fun (_, m, n) => [Char.ofNat m, Char.ofNat n]

def written? (name : List Char) : Option (List Char) :=
  if name.getLast? == some ';' then named? (String.ofList name.dropLast)
  else
    let s := String.ofList name
    if legacyNames.contains s then named? s else none

/-- The longest known name at the front of a text, cut to `width` characters or fewer, and what
follows it. -/
def longest? (name : List Char) : (width : Nat) → Option (List Char × List Char)
  | 0 | 1 => none
  | width + 2 =>
    match written? (name.take (width + 2)) with
    | some cs => some (cs, name.drop (width + 2))
    | none => longest? name (width + 1)

/-- What the code points from 128 to 159 stand for: those of an older character set. -/
def controlForms : List Nat :=
  [0x20ac, 0x81, 0x201a, 0x192, 0x201e, 0x2026, 0x2020, 0x2021, 0x2c6, 0x2030, 0x160, 0x2039,
    0x152, 0x8d, 0x17d, 0x8f, 0x90, 0x2018, 0x2019, 0x201c, 0x201d, 0x2022, 0x2013, 0x2014, 0x2dc,
    0x2122, 0x161, 0x203a, 0x153, 0x9d, 0x17e, 0x178]

def isVoidCode (n : Nat) : Bool :=
  (1 ≤ n && n ≤ 8) || n == 0xb || (0xe ≤ n && n ≤ 0x1f) || n == 0x7f ||
    (0xfdd0 ≤ n && n ≤ 0xfdef) || n % 0x10000 == 0xfffe || n % 0x10000 == 0xffff

def numbered (n : Nat) : List Char :=
  if n == 0 then ['\ufffd']
  else if 0x80 ≤ n && n < 0xa0 then [Char.ofNat ((controlForms[n - 0x80]?).getD n)]
  else if (0xd800 ≤ n && n ≤ 0xdfff) || 0x10ffff < n then ['\ufffd']
  else if isVoidCode n then []
  else [Char.ofNat n]

def isNameChar (c : Char) : Bool :=
  !(c == '\t' || c == '\n' || c == '\x0c' || c == ' ' || c == '<' || c == '&' || c == '#' ||
    c == ';')

def semicolon : List Char → Nat
  | ';' :: _ => 1
  | _ => 0

def reference? (cs : List Char) : Option (List Char × Nat) :=
  match cs with
  | '#' :: rest =>
    let digits := rest.takeWhile Char.isDigit
    if !digits.isEmpty then
      let n := Numeric.ofDigits 10 digits
      some (numbered n, 1 + digits.length + semicolon (rest.drop digits.length))
    else match rest with
      | x :: rest =>
        let digits := rest.takeWhile Numeric.isHexDigit
        if (x == 'x' || x == 'X') && !digits.isEmpty then
          let n := Numeric.ofDigits 16 digits
          some (numbered n, 2 + digits.length + semicolon (rest.drop digits.length))
        else none
      | [] => none
  | _ =>
    let word := (cs.takeWhile isNameChar).take 32
    if word.isEmpty then none
    else
      let width := word.length + semicolon (cs.drop word.length)
      let name := cs.take width
      match written? name with
      | some chars => some (chars, width)
      | none =>
        match longest? name (width - 1) with
        | some (chars, rest) => some (chars ++ rest, width)
        | none => some ('&' :: name, width)

def decode : List Char → List Char
  | [] => []
  | c :: rest =>
    if c == '&' then
      match reference? rest with
      | some (chars, n) => chars ++ decode (rest.drop n)
      | none => '&' :: decode rest
    else c :: decode rest
termination_by cs => cs.length
decreasing_by all_goals simp only [List.length_drop, List.length_cons]; omega

def decimalWidth : List Char → Nat
  | '#' :: rest => (rest.takeWhile Char.isDigit).length
  | _ => 0

def overlong? : List Char → Option Nat
  | [] => none
  | c :: rest =>
    if c == '&' && Numeric.maxDigits < decimalWidth rest then some (decimalWidth rest)
    else overlong? rest

/-- The text with its references replaced, if none of them is too long. -/
def unescape (cs : List Char) : Except Fault String :=
  match overlong? cs with
  | some n => .error (.numeralTooLong n)
  | none => .ok (String.ofList (decode cs))

end Microdata.Markup
