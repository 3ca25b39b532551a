import Microdata.Fault
import Microdata.Number.Decimal
import Microdata.Number.Digits
import Microdata.Text.Split
set_option autoImplicit false

namespace Microdata.Numeric

def isDigitOf (base : Nat) (c : Char) : Bool := (hexValue? c).any (· < base)

/-- What stands behind the mark of a base, and behind a low line that follows the mark. -/
def dropMark (base : Nat) : List Char → List Char
  | '0' :: x :: rest =>
    let mark := x.toLower
    if (base == 16 && mark == 'x') || (base == 8 && mark == 'o') || (base == 2 && mark == 'b') then
      match rest with
      | '_' :: rest => rest
      | rest => rest
    else '0' :: x :: rest
  | cs => cs

def isSpaced (run : List Char) : Bool :=
  run.isEmpty || (Text.split '_' run).all fun piece => !piece.isEmpty

def readInteger (base : Nat) (s : String) : Except Fault Int :=
  let cs := (Text.trim Text.isMargin s.toList).map Numeral.plain
  let (negative, cs) := Numeral.spanSign cs
  let body := dropMark base cs
  let run := body.takeWhile fun c => c == '_' || isDigitOf base c
  let digits := run.filter (· != '_')
  if !isSpaced run then .error (.badNumeral s base)
  else if base == 10 && maxDigits < digits.length then .error (.numeralTooLong digits.length)
  else if run.isEmpty || run.length != body.length then .error (.badNumeral s base)
  else
    let n : Int := ofDigits base digits
    .ok (if negative then -n else n)

def writeInteger (n : Int) : Except Fault String :=
  if n.natAbs < Nat.pow 10 maxDigits then .ok (toString n) else .error .integerTooLong

theorem writeInteger_of_lt {n : Int} (h : n.natAbs < Nat.pow 10 maxDigits) :
    writeInteger n = .ok (toString n) := if_pos h

end Microdata.Numeric
