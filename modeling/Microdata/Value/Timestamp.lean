set_option autoImplicit false

namespace Microdata

structure TimeOfDay where
  hour : Nat
  minute : Nat
  second : Nat
  microsecond : Nat
  offset : Option Int
  deriving DecidableEq, Repr

structure Timestamp where
  year : Nat
  month : Nat
  day : Nat
  time : Option TimeOfDay
  deriving DecidableEq, Repr

namespace Timestamp

def isLeap (year : Nat) : Bool := year % 4 == 0 && (year % 100 != 0 || year % 400 == 0)

def monthDays (year month : Nat) : Nat :=
  if month == 2 then if isLeap year then 29 else 28
  else if month == 4 || month == 6 || month == 9 || month == 11 then 30
  else 31

def dayNumber (t : Timestamp) : Nat :=
  let y := t.year - 1
  365 * y + y / 4 - y / 100 + y / 400 +
    (List.range (t.month - 1)).foldl (fun n m => n + monthDays t.year (m + 1)) 0 + t.day

/-- The moment in universal time, in millionths of a second, if its distance from that is given. -/
def instant? (t : Timestamp) : Option Int := do
  let c ← t.time
  let minutes ← c.offset
  let passed : Int := ((t.dayNumber * 24 + c.hour) * 60 + c.minute : Nat) - minutes
  some ((passed * 60 + c.second) * 1000000 + c.microsecond)

def same (t u : Timestamp) : Bool :=
  match t.instant?, u.instant? with
  | some a, some b => a == b
  | _, _ => t == u

def padded (width n : Nat) : String :=
  let ds := Nat.toDigits 10 n
  String.ofList (List.replicate (width - ds.length) '0' ++ ds)

def offsetText (minutes : Int) : String :=
  (if minutes < 0 then "-" else "+") ++ padded 2 (minutes.natAbs / 60) ++ ":" ++
    padded 2 (minutes.natAbs % 60)

def text (t : Timestamp) : String :=
  let day := padded 4 t.year ++ "-" ++ padded 2 t.month ++ "-" ++ padded 2 t.day
  match t.time with
  | none => day
  | some c =>
    day ++ " " ++ padded 2 c.hour ++ ":" ++ padded 2 c.minute ++ ":" ++ padded 2 c.second ++
      (if c.microsecond == 0 then "" else "." ++ padded 6 c.microsecond) ++
      (match c.offset with
        | none => ""
        | some minutes => offsetText minutes)

def offsetLiteral (minutes : Int) : String :=
  if minutes == 0 then "datetime.timezone.utc"
  else
    let delta := if minutes < 0 then
        "days=-1, seconds=" ++ toString (86400 - 60 * minutes.natAbs)
      else "seconds=" ++ toString (60 * minutes.natAbs)
    "datetime.timezone(datetime.timedelta(" ++ delta ++ "))"

def literal (t : Timestamp) : String :=
  let day := [toString t.year, toString t.month, toString t.day]
  match t.time with
  | none => "datetime.date(" ++ ", ".intercalate day ++ ")"
  | some c =>
    let clock := [toString c.hour, toString c.minute] ++
      (if c.second == 0 && c.microsecond == 0 then [] else [toString c.second]) ++
      (if c.microsecond == 0 then [] else [toString c.microsecond]) ++
      (match c.offset with
        | none => []
        | some minutes => ["tzinfo=" ++ offsetLiteral minutes])
    "datetime.datetime(" ++ ", ".intercalate (day ++ clock) ++ ")"

end Timestamp
end Microdata
