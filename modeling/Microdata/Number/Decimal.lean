import Microdata.Number.Binary64
import Microdata.Text.Blank
import Microdata.Text.Digit
set_option autoImplicit false

namespace Microdata

inductive Numeral where
  | nan
  | inf (negative : Bool)
  | decimal (negative : Bool) (digits : List Nat) (exponent : Int)

namespace Numeral

def ofDigits (ds : List Nat) : Nat :=
  ds.foldl (fun n d => 10 * n + d) 0

def plain (c : Char) : Char :=
  match Text.decimalValue? c with
  | some d => Nat.digitChar d
  | none => c

/-- The numeral without its low lines, each of which must stand between two digits. -/
def joined? (afterDigit : Bool) : List Char → Option (List Char)
  | [] => some []
  | '_' :: rest =>
    match rest with
    | c :: _ => if afterDigit && c.isDigit then joined? false rest else none
    | [] => none
  | c :: rest => (joined? c.isDigit rest).map (c :: ·)

def spanDigits (cs : List Char) : List Nat × List Char :=
  ((cs.takeWhile Char.isDigit).map (·.toNat - 48), cs.dropWhile Char.isDigit)

def spanFraction : List Char → List Nat × List Char
  | '.' :: rest => spanDigits rest
  | rest => ([], rest)

def spanSign : List Char → Bool × List Char
  | '-' :: rest => (true, rest)
  | '+' :: rest => (false, rest)
  | cs => (false, cs)

def exponent? : List Char → Option Int
  | [] => some 0
  | c :: rest =>
    if c == 'e' || c == 'E' then
      let (negative, rest) := spanSign rest
      let (ds, rest) := spanDigits rest
      if ds.isEmpty || !rest.isEmpty then none
      else some (if negative then -(ofDigits ds) else ofDigits ds)
    else none

def unsigned? (negative : Bool) (cs : List Char) : Option Numeral :=
  let name := cs.map Char.toLower
  if name == "inf".toList || name == "infinity".toList then some (inf negative)
  else if name == "nan".toList then some nan
  else
    let (whole, rest) := spanDigits cs
    let (fraction, rest) := spanFraction rest
    if whole.isEmpty && fraction.isEmpty then none
    else (exponent? rest).map fun e => decimal negative (whole ++ fraction) (e - fraction.length)

def read? (s : String) : Option Numeral := do
  let cs ← joined? false ((Text.trim Text.isMargin s.toList).map plain)
  let (negative, cs) := spanSign cs
  unsigned? negative cs

/-- The nearest number. The size of the exponent is looked at before any power is built. -/
def nearest : Numeral → Binary64
  | nan => .nan
  | inf negative => .inf negative
  | decimal negative digits exponent =>
    let digits := digits.dropWhile (· == 0)
    let magnitude := exponent + digits.length
    if digits.isEmpty || magnitude < -400 then .finite negative 0
    else if 400 < magnitude then .inf negative
    else match exponent with
      | .ofNat e => .ofSteps negative (ofDigits digits * Nat.pow 10 e * Binary64.unit) 1
      | .negSucc e => .ofSteps negative (ofDigits digits * Binary64.unit) (Nat.pow 10 (e + 1))

end Numeral
end Microdata
