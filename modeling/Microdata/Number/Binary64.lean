set_option autoImplicit false

/-!
Binary floating point numbers with a significand of 53 bits. Every finite one is a whole number of
steps of 2^-1074, so that all arithmetic here is arithmetic of integers. Main definitions: the
rounding of a quotient (`roundSteps`), to nearest and to the even neighbour on a tie, and the order
of numbers (`lt`, `eq`), in which `nan` is unequal to everything.
-/

namespace Microdata

inductive Binary64 where
  | nan
  | inf (negative : Bool)
  | finite (negative : Bool) (steps : Nat)
  deriving DecidableEq, Repr

namespace Binary64

def unit : Nat := Nat.pow 2 1074

def limit : Nat := Nat.pow 2 2098

/-- The binary places below the 53 leading ones of a number. -/
def surplus (n : Nat) : Nat := n.log2 + 1 - 53

def roundTo (grain num den : Nat) : Nat :=
  let d := den * grain
  let q := num / d
  let r := num % d
  (if d < 2 * r || (2 * r == d && q % 2 == 1) then q + 1 else q) * grain

def roundSteps (num den : Nat) : Nat :=
  roundTo (Nat.pow 2 (surplus (num / den))) num den

/-- The number nearest to `num / den` steps, or an infinity if that is out of range. -/
def ofSteps (negative : Bool) (num den : Nat) : Binary64 :=
  let steps := roundSteps num den
  if steps < limit then finite negative steps else inf negative

def neg : Binary64 → Binary64
  | nan => nan
  | inf negative => inf !negative
  | finite negative steps => finite (!negative) steps

def zero : Binary64 := finite false 0

def finite? : Binary64 → Option Binary64
  | finite negative steps => some (finite negative steps)
  | _ => none

def ofInt? (n : Int) : Option Binary64 := (ofSteps (n < 0) (n.natAbs * unit) 1).finite?

/-- The signed number of steps; an infinity lies beyond all finite numbers. -/
def position : Binary64 → Int
  | nan => 0
  | inf negative => if negative then -limit else limit
  | finite negative steps => if negative then -steps else steps

def eq (x y : Binary64) : Bool :=
  x != nan && y != nan && x.position == y.position

def lt (x y : Binary64) : Bool :=
  x != nan && y != nan && x.position < y.position

/-- The nearest number to the sum. A sum that is zero is negative only if both numbers are. -/
def add : Binary64 → Binary64 → Binary64
  | nan, _ | _, nan => nan
  | inf a, inf b => if a == b then inf a else nan
  | inf a, finite _ _ => inf a
  | finite _ _, inf b => inf b
  | finite a m, finite b n =>
    let sum := (finite a m).position + (finite b n).position
    ofSteps (if sum == 0 then a && b else sum < 0) sum.natAbs 1

def mul : Binary64 → Binary64 → Binary64
  | nan, _ | _, nan => nan
  | inf a, inf b => inf (a != b)
  | inf a, finite b n | finite b n, inf a => if n == 0 then nan else inf (a != b)
  | finite a m, finite b n => ofSteps (a != b) (m * n) unit

def toInt? : Binary64 → Option Int
  | finite negative steps =>
    if steps % unit == 0 then
      some (if negative then -(steps / unit : Nat) else (steps / unit : Nat))
    else none
  | _ => none

def isZero : Binary64 → Bool
  | finite _ steps => steps == 0
  | _ => false

end Binary64
end Microdata
