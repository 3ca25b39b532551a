set_option autoImplicit false

namespace Microdata.Text

def sextet? (c : Char) : Option Nat :=
  if 'A' ≤ c && c ≤ 'Z' then some (c.toNat - 65)
  else if 'a' ≤ c && c ≤ 'z' then some (c.toNat - 71)
  else if c.isDigit then some (c.toNat + 4)
  else if c == '+' then some 62
  else if c == '/' then some 63
  else none

def groupBytes : List Nat → List Nat
  | [a, b] => [4 * a + b / 16]
  | [a, b, c] => [4 * a + b / 16, 16 * (b % 16) + c / 4]
  | [a, b, c, d] => [4 * a + b / 16, 16 * (b % 16) + c / 4, 64 * (c % 4) + d]
  | _ => []

/-- The bytes of a text, of which a group of letters and the equals signs behind it have been read.
The text may end behind a whole group, or where equals signs fill it up. -/
def sextetBytes? (group : List Nat) (pads : Nat) : List Char → Option (List Nat)
  | [] => if group.isEmpty then some [] else none
  | c :: rest =>
    if c == '=' then
      if 2 ≤ group.length && 3 ≤ group.length + pads then some (groupBytes group)
      else sextetBytes? group (if 2 ≤ group.length then pads + 1 else pads) rest
    else match sextet? c with
      | none => sextetBytes? group pads rest
      | some n =>
        let group := group ++ [n]
        if group.length == 4 then (sextetBytes? [] 0 rest).map (groupBytes group ++ ·)
        else sextetBytes? group 0 rest

def base64? (cs : List Char) : Option (List Nat) := sextetBytes? [] 0 cs

end Microdata.Text
