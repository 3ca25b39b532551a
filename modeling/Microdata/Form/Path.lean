import Microdata.Text.Blank
import Microdata.Text.Digit
import Microdata.Number.Decimal
import Microdata.Value.Basic
set_option autoImplicit false

/-!
Paths into nested records. `Path.ofText` takes a path apart, and `store` puts a value at a path:
names lead into records and numbers into lists, what is missing on the way is made, and a value that
meets another one stands behind it in a list. Main type: `Placement`, which says where the value has
gone.
-/

namespace Microdata

structure Path where
  parts : List String
  isListed : Bool
  deriving DecidableEq, Repr

namespace Path

def dropMark : List Char → List Char
  | [] => []
  | '[' :: ']' :: rest => rest
  | c :: rest => c :: dropMark rest

def hasMark : List Char → Bool
  | [] => false
  | '[' :: ']' :: _ => true
  | _ :: rest => hasMark rest

def isSeparator (c : Char) : Bool := c == '.' || c == '[' || c == ']'

def ofText (s : String) : Path where
  parts := (Text.runs isSeparator [] (dropMark s.toList)).map String.ofList
  isListed := hasMark s.toList

end Path

def isNumber (s : String) : Bool := s != "" && s.toList.all Text.isDigit

def digitLimit : Nat := 4300

def readNumber (s : String) : Except Fault Nat :=
  let values := s.toList.map Text.decimalValue?
  let count := (values.takeWhile Option.isSome).length
  if digitLimit < count then .error (.numeralTooLong count)
  else if count = values.length then .ok (Numeral.ofDigits (values.filterMap id))
  else .error (.badNumeral s 10)

inductive Step where
  | name (name : String)
  | index (index : Nat)
  deriving DecidableEq, Repr

abbrev Place := List Step

inductive Placement where
  | ignored
  | stored (place : Place)
  /-- The place now holds a list of the value that was there and the new one. -/
  | joined (place : Place)
  deriving DecidableEq, Repr

def Placement.under (step : Step) : Placement → Placement
  | ignored => ignored
  | stored place => stored (step :: place)
  | joined place => joined (step :: place)

structure Stored where
  container : Value
  result : Except Fault Placement

namespace Value

/-- The step that a part of a path means in a value; `none` if it means none. Only records have
names, and only what has a length has positions. -/
def step? (container : Value) (part : String) : Except Fault (Option Step) :=
  match container with
  | record _ => .ok (some (.name part))
  | v =>
    if isNumber part then do
      let n ← readNumber part
      match v with
      | list _ | tuple _ | text _ => .ok (some (.index n))
      | v => .error (.noLength v.kindName)
    else .ok Option.none

def at? (container : Value) (step : Step) : Option Value :=
  match container, step with
  | record fields, .name n => Fields.get? n fields
  | list items, .index i => items[i]?
  | tuple items, .index i => items[i]?
  | text s, .index i => s.toList[i]?.map fun c => text (String.singleton c)
  | _, _ => Option.none

/-- Why nothing new can be put one step inside: texts and tuples keep their length and their values,
though a value inside may itself change. -/
def refusal? (container : Value) (step : Step) : Option Fault :=
  match container with
  | record _ | list _ => Option.none
  | v => some (if (v.at? step).isSome then .fixedItems v.kindName else .fixedLength v.kindName)

/-- A list with a value at a position, up to which it is filled with absent values. -/
def setItem (items : List Value) (i : Nat) (v : Value) : List Value :=
  (items ++ List.replicate (i + 1 - items.length) none).set i v

def setAt (container : Value) (step : Step) (v : Value) : Value :=
  match container, step with
  | record fields, .name n => record (Fields.put n v fields)
  | list items, .index i => list (setItem items i v)
  | tuple items, .index i => tuple (items.set i v)
  | container, _ => container

def atPlace? (v : Value) : Place → Option Value
  | [] => some v
  | step :: rest => (v.at? step).bind fun inner => inner.atPlace? rest

def storeLast (container : Value) (step : Step) (listed : Bool) (v : Value) : Stored :=
  match container.at? step with
  | some (list items) =>
    ⟨container.setAt step (list (items ++ [v])), .ok (.stored [step, .index items.length])⟩
  | old =>
    match container.refusal? step with
    | some f => ⟨container, .error f⟩
    | Option.none =>
      match old with
      | Option.none | some none =>
        if listed then ⟨container.setAt step (list [v]), .ok (.stored [step, .index 0])⟩
        else ⟨container.setAt step v, .ok (.stored [step])⟩
      | some old => ⟨container.setAt step (list [old, v]), .ok (.joined [step])⟩

def isContainer : Value → Bool
  | record _ => true
  | list _ => true
  | _ => false

def fresh (next : String) : Value := if isNumber next then list [] else record []

/-- A value stored at a path. Where a part of the path cannot be read, what has been made on the
way to it stays. -/
def store (container : Value) (parts : List String) (listed : Bool) (v : Value) : Stored :=
  match parts with
  | [] => ⟨container, .ok .ignored⟩
  | part :: rest =>
    match container.step? part with
    | .error f => ⟨container, .error f⟩
    | .ok Option.none => ⟨container, .ok .ignored⟩
    | .ok (some step) =>
      match rest with
      | [] => container.storeLast step listed v
      | next :: _ =>
        match container.at? step with
        | Option.none | some none =>
          match container.refusal? step with
          | some f => ⟨container, .error f⟩
          | Option.none =>
            let s := (fresh next).store rest listed v
            ⟨container.setAt step s.container, s.result.map (.under step)⟩
        | some inner =>
          if inner.isContainer then
            let s := inner.store rest listed v
            ⟨container.setAt step s.container, s.result.map (.under step)⟩
          else ⟨container, .ok .ignored⟩

end Value
end Microdata
