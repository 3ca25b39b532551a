import Microdata.Number.Binary64
set_option autoImplicit false

/-!
The text of a floating point number: the fewest decimal digits that read back as the same number,
and of those the nearest to it. The search runs over the decimal grids 1, 2, … 17 digits wide; a
grid holds a decimal that reads back if one of the value's two neighbours on it does.
-/

namespace Microdata.Binary64

/-- The decimals around a number of steps that are nearer to it than to any other number, given by
four times their numbers of steps; the two ends belong to the interval if `closed`. -/
structure Interval where
  low : Nat
  high : Nat
  closed : Bool

/-- Half the gap to each neighbour; below a power of two the gap is half as wide. -/
def interval (steps : Nat) : Interval :=
  let ulp := Nat.pow 2 (surplus steps)
  let below := if 1 < ulp && steps == Nat.pow 2 52 * ulp then ulp else 2 * ulp
  ⟨4 * steps - below, 4 * steps + 2 * ulp, steps / ulp % 2 == 0⟩

def Interval.holds (i : Interval) (num den : Nat) : Bool :=
  if i.closed then i.low * den ≤ 4 * num && 4 * num ≤ i.high * den
  else i.low * den < 4 * num && 4 * num < i.high * den

/-- The place of the first digit: the value lies between `10 ^ (place - 1)` and `10 ^ place`. -/
def place (steps : Nat) : Int :=
  let whole := steps / unit
  if whole == 0 then placeBelow 330 steps 0 else (Nat.toDigits 10 whole).length
where
  placeBelow : Nat → Nat → Nat → Int
    | 0, _, n => -n
    | fuel + 1, scaled, n =>
      if unit ≤ 10 * scaled then -n else placeBelow fuel (10 * scaled) (n + 1)

def grid : Int → Nat × Nat
  | .ofNat e => (Nat.pow 10 e * unit, 1)
  | .negSucc e => (unit, Nat.pow 10 (e + 1))

/-- A decimal of the grid whose last digit stands at `10 ^ exponent`, if one lies in the interval
of the value: the nearer one of the value's neighbours, the even one of two as near. -/
def onGrid? (steps : Nat) (i : Interval) (exponent : Int) : Option Nat :=
  let (scale, den) := grid exponent
  let down := steps * den / scale
  let rest := steps * den % scale
  let holds (n : Nat) := i.holds (n * scale) den
  let nearer := if 2 * rest < scale || (2 * rest == scale && down % 2 == 0) then down else down + 1
  let farther := if nearer == down then down + 1 else down
  if holds nearer then some nearer else if holds farther then some farther else none

def shortest (steps : Nat) : Nat × Int :=
  let i := interval steps
  let p := place steps
  let rec search : Nat → Nat → Nat × Int
    | 0, width => ((onGrid? steps i (p - width)).getD 0, p - width)
    | more + 1, width =>
      match onGrid? steps i (p - width) with
      | some n => (n, p - width)
      | none => search more (width + 1)
  search 17 1

structure Format where
  least : Int
  most : Int
  exponentWidth : Nat

def plainFormat : Format := ⟨-4, 16, 2⟩

def Format.exponent (f : Format) (e : Int) : List Char :=
  let ds := Nat.toDigits 10 e.natAbs
  (if e < 0 then '-' else '+') :: (List.replicate (f.exponentWidth - ds.length) '0' ++ ds)

def Format.write (f : Format) (ds : List Char) (point : Int) : List Char :=
  if f.least < point && point ≤ f.most then
    if point ≤ 0 then ['0', '.'] ++ List.replicate (-point).toNat '0' ++ ds
    else
      let n := point.toNat
      let whole := ds.take n ++ List.replicate (n - ds.length) '0'
      whole ++ '.' :: (if ds.length ≤ n then ['0'] else ds.drop n)
  else
    match ds with
    | [] => []
    | [d] => d :: 'e' :: f.exponent (point - 1)
    | d :: rest => d :: '.' :: rest ++ 'e' :: f.exponent (point - 1)

def trimZeros (ds : List Char) : List Char :=
  (ds.reverse.dropWhile (· == '0')).reverse

def text : Binary64 → String
  | nan => "nan"
  | inf negative => if negative then "-inf" else "inf"
  | finite negative steps =>
    let body :=
      if steps == 0 then "0.0".toList
      else
        let (n, exponent) := shortest steps
        let ds := Nat.toDigits 10 n
        plainFormat.write (trimZeros ds) (exponent + ds.length)
    String.ofList (if negative then '-' :: body else body)

end Microdata.Binary64
