import Microdata.Fault
import Microdata.Number.Digits
import Microdata.Value.Timestamp
set_option autoImplicit false

namespace Microdata.Yaml

def withoutLineEnd (s : String) : List Char :=
  if s.toList.getLast? == some '\n' then s.toList.dropLast else s.toList

def spanDigits? (least most : Nat) (cs : List Char) : Option (Nat × List Char) :=
  let digits := (cs.take most).takeWhile Char.isDigit
  if digits.length < least then none
  else some (Numeric.ofDigits 10 digits, cs.drop digits.length)

def after? (c : Char) : List Char → Option (List Char)
  | d :: rest => if c == d then some rest else none
  | [] => none

def isGap (c : Char) : Bool := c == ' ' || c == '\t'

def offset? (cs : List Char) : Option (Option Int) :=
  if cs.isEmpty then some none
  else match cs.dropWhile isGap with
    | ['Z'] => some (some 0)
    | sign :: rest => do
      if sign == '-' || sign == '+' then
        let (hours, rest) ← spanDigits? 1 2 rest
        let (minutes, rest) ← match rest with
          | ':' :: rest => spanDigits? 2 2 rest
          | rest => some (0, rest)
        let total : Int := (60 * hours + minutes : Nat)
        if rest.isEmpty then some (some (if sign == '-' then -total else total)) else none
      else none
    | [] => none

def microseconds (digits : List Char) : Nat :=
  Numeric.ofDigits 10 ((digits ++ List.replicate 6 '0').take 6)

/-- The day or the moment that a text spells, whether there is such a one or not. -/
def timestamp? (s : String) : Option Timestamp := do
  let (year, rest) ← spanDigits? 4 4 (withoutLineEnd s)
  let rest ← after? '-' rest
  let (month, rest) ← spanDigits? 1 2 rest
  let rest ← after? '-' rest
  let (day, rest) ← spanDigits? 1 2 rest
  match rest with
  | [] => some ⟨year, month, day, none⟩
  | c :: rest =>
    let rest ← if c == 'T' || c == 't' then some rest
      else if isGap c then some (rest.dropWhile isGap)
      else none
    let (hour, rest) ← spanDigits? 1 2 rest
    let rest ← after? ':' rest
    let (minute, rest) ← spanDigits? 2 2 rest
    let rest ← after? ':' rest
    let (second, rest) ← spanDigits? 2 2 rest
    let (fraction, rest) := match rest with
      | '.' :: rest => (rest.takeWhile Char.isDigit, rest.dropWhile Char.isDigit)
      | rest => ([], rest)
    let offset ← offset? rest
    some ⟨year, month, day, some ⟨hour, minute, second, microseconds fraction, offset⟩⟩

def isTimestamp (s : String) : Bool :=
  match timestamp? s with
  | some t => t.time.isSome || (withoutLineEnd s).length == 10
  | none => false

def deltaText (days seconds : Int) : String :=
  let parts := (if days == 0 then [] else ["days=" ++ toString days]) ++
    (if seconds == 0 then [] else ["seconds=" ++ toString seconds])
  "datetime.timedelta(" ++ (if parts.isEmpty then "0" else ", ".intercalate parts) ++ ")"

def checked (t : Timestamp) : Except Fault Timestamp :=
  let refuse (part : String) : Except Fault Timestamp := .error (.calendar part)
  let day : Except Fault Timestamp :=
    if t.year == 0 then refuse "year 0 is out of range"
    else if t.month == 0 || 12 < t.month then refuse "month must be in 1..12"
    else if t.day == 0 || Timestamp.monthDays t.year t.month < t.day then
      refuse "day is out of range for month"
    else .ok t
  match t.time with
  | none => day
  | some c =>
    let minutes := c.offset.getD 0
    if 1440 ≤ minutes.natAbs then
      refuse ("offset must be a timedelta strictly between -timedelta(hours=24) and " ++
        "timedelta(hours=24), not " ++ deltaText (minutes / 1440) (60 * (minutes % 1440)) ++ ".")
    else do
      let t ← day
      if 23 < c.hour then refuse "hour must be in 0..23"
      else if 59 < c.minute then refuse "minute must be in 0..59"
      else if 59 < c.second then refuse "second must be in 0..59"
      else .ok t

def readTimestamp (s : String) : Except Fault Timestamp :=
  match timestamp? s with
  | some t => checked t
  | none => .error .noTimestamp

end Microdata.Yaml
