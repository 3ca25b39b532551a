import Microdata.Json.Writer
import Microdata.Number.Decimal
set_option autoImplicit false

namespace Microdata

def numberOfText? (s : String) : Option Binary64 :=
  match (Numeral.read? (Text.strip s)).map Numeral.nearest with
  | some (.finite negative steps) => some (.finite negative steps)
  | _ => none

namespace Value

def inRange : Option Binary64 → Except Fault (Option Binary64)
  | some x => .ok (some x)
  | Option.none => .error .integerTooLarge

/-- The number that a value stands for: numbers, and texts that spell a finite one. Truth values
are no numbers. -/
def number? : Value → Except Fault (Option Binary64)
  | int n => inRange (Binary64.ofInt? n)
  | float x => .ok (some x)
  | text s => .ok (numberOfText? s)
  | _ => .ok Option.none

theorem number?_int (n : Int) : (int n).number? = inRange (Binary64.ofInt? n) := by
  unfold number?
  exact Eq.refl _

def floatMarkup (x : Binary64) : String :=
  match x.toInt? with
  | some n => toString n
  | Option.none => x.text

mutual
/-- The text of a value as it stands in markup: the items of a list joined by commas, a record as
JSON, and nothing for the absent value. A level of a list takes three levels of the room that there
is, and so do the calls on the way to a record, with one more. -/
def markupIn (room : Nat) : Value → Except Fault String
  | none => .ok ""
  | bool b => .ok (Json.boolText b)
  | int n => Numeric.writeInteger n
  | float x => .ok (floatMarkup x)
  | text s => .ok s
  | date t => .ok t.text
  | bytes bs => .ok (Text.quotedBytes bs)
  | list items =>
    if room < 3 then .error .tooDeep
    else do .ok (",".intercalate (← markupsIn (room - 3) items))
  | tuple items =>
    if room < 3 then .error .tooDeep
    else do .ok (",".intercalate (← markupsIn (room - 3) items))
  | record fields => Json.line (.record fields) (room - 4)
  | set items => (set items).shownIn room
  | element e => .ok e.literal
  | document d => .ok (document d).literal
  | form pairs => (form pairs).shownIn room

def markupsIn (room : Nat) : List Value → Except Fault (List String)
  | [] => .ok []
  | v :: rest => do
    let first ← v.markupIn room
    .ok (first :: (← markupsIn room rest))
end

def markup (v : Value) : Except Fault String := v.markupIn room

end Value
end Microdata
