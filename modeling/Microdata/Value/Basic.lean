import Microdata.Element
import Microdata.Number.Binary64
import Microdata.Value.Timestamp
import Microdata.Fault
set_option autoImplicit false

/-!
The values that records hold: scalars, lists, sets, and records of named values. A source that has
not been normalized may also hold tuples, elements, documents, the pairs of a form, and records
whose keys are not texts.
-/

namespace Microdata

/-- The keys of a record. -/
inductive Key where
  | none
  | bool (b : Bool)
  | int (n : Int)
  | float (x : Binary64)
  | text (s : String)
  | date (t : Timestamp)
  | bytes (bs : List Nat)
  | tuple (items : List Key)
  deriving Repr

namespace Key

/-- A key as a number, with the truth values as 0 and 1: numerically equal keys are the same. -/
def number? : Key → Option (Int ⊕ Binary64)
  | bool b => some (.inl (if b then 1 else 0))
  | int n => some (.inl n)
  | float x => some (match x.toInt? with
    | some n => .inl n
    | Option.none => .inr x)
  | _ => Option.none

def sameNumber : Int ⊕ Binary64 → Int ⊕ Binary64 → Bool
  | .inl m, .inl n => m == n
  | .inr x, .inr y => x.eq y
  | _, _ => false

mutual
def same : Key → Key → Bool
  | none, k => match k with
    | none => true
    | _ => false
  | text s, k => match k with
    | text t => s == t
    | _ => false
  | date t, k => match k with
    | date u => t.same u
    | _ => false
  | bytes a, k => match k with
    | bytes b => a == b
    | _ => false
  | tuple a, k => match k with
    | tuple b => sameAll a b
    | _ => false
  | bool b, k => match k.number? with
    | some n => sameNumber (.inl (if b then 1 else 0)) n
    | Option.none => false
  | int m, k => match k.number? with
    | some n => sameNumber (.inl m) n
    | Option.none => false
  | float x, k => match (float x).number?, k.number? with
    | some m, some n => sameNumber m n
    | _, _ => false

def sameAll : List Key → List Key → Bool
  | [], [] => true
  | a :: as, b :: bs => same a b && sameAll as bs
  | _, _ => false
end

end Key

inductive Value where
  | none
  | bool (b : Bool)
  | int (n : Int)
  | float (x : Binary64)
  | text (s : String)
  | date (t : Timestamp)
  | bytes (bs : List Nat)
  | list (items : List Value)
  | tuple (items : List Value)
  | record (fields : List (Key × Value))
  | set (items : List Key)
  | element (e : Element)
  | document (d : Document)
  | form (pairs : List (String × Value))

instance : Inhabited Value := ⟨.none⟩

abbrev Fields := List (Key × Value)

namespace Fields

def get? (name : String) : Fields → Option Value
  | [] => none
  | (.text n, v) :: rest => if n = name then some v else get? name rest
  | _ :: rest => get? name rest

/-- The entries with a value put at a key: in the old place, or else at the end. -/
def insert (key : Key) (value : Value) : Fields → Fields
  | [] => [(key, value)]
  | (k, v) :: rest => if k.same key then (k, value) :: rest else (k, v) :: insert key value rest

def put (name : String) (value : Value) : Fields → Fields
  | [] => [(.text name, value)]
  | (.text n, v) :: rest =>
    if n = name then (.text n, value) :: rest else (.text n, v) :: put name value rest
  | entry :: rest => entry :: put name value rest

theorem mem_of_get? {name : String} {v : Value} {fields : Fields} (h : get? name fields = some v) :
    (.text name, v) ∈ fields := by
  induction fields with
  | nil => cases h
  | cons entry rest ih =>
    obtain ⟨k, w⟩ := entry
    cases k with
    | text n =>
      by_cases hn : n = name
      · subst hn
        obtain rfl : w = v := by simpa [get?] using h
        exact List.mem_cons_self ..
      · exact List.mem_cons_of_mem _ (ih (by simpa [get?, hn] using h))
    | _ => exact List.mem_cons_of_mem _ (ih h)

theorem get?_put (name x : String) (value : Value) (fields : Fields) :
    get? x (put name value fields) = if name = x then some value else get? x fields := by
  induction fields with
  | nil => simp [put, get?]
  | cons entry rest ih =>
    obtain ⟨k, v⟩ := entry
    cases k with
    | text n =>
      by_cases h : n = name
      · by_cases hx : n = x <;> simp_all [put, get?]
      · by_cases hx : n = x
        · subst hx
          simp [put, get?, h, Ne.symm h]
        · simp [put, get?, h, hx, ih]
    | _ => simp [put, get?, ih]

theorem get?_append (name : String) (a b : Fields) :
    get? name (a ++ b) = (get? name a).or (get? name b) := by
  induction a with
  | nil => rfl
  | cons entry rest ih =>
    obtain ⟨k, v⟩ := entry
    cases k with
    | text n => by_cases h : n = name <;> simp [get?, h, ih]
    | _ => simp [get?, ih]

theorem put_append {name : String} {a : Fields} (h : get? name a = none) (b : Fields)
    (value : Value) : put name value (a ++ b) = a ++ put name value b := by
  induction a with
  | nil => rfl
  | cons entry rest ih =>
    obtain ⟨k, v⟩ := entry
    cases k with
    | text n =>
      have hn : n ≠ name := fun e => by simp [get?, e] at h
      have hr : get? name rest = none := by simpa [get?, hn] using h
      simp [put, hn, ih hr]
    | _ =>
      have hr : get? name rest = none := by simpa [get?] using h
      simp [put, ih hr]

theorem get?_isSome_iff {n : String} {fields : Fields} :
    (get? n fields).isSome ↔ .text n ∈ fields.map (·.1) := by
  induction fields with
  | nil => simp [get?]
  | cons e rest ih =>
    obtain ⟨k, w⟩ := e
    cases k with
    | text m =>
      by_cases hm : m = n
      · simp [get?, hm]
      · simp [get?, hm, Ne.symm hm, ih]
    | _ => simp [get?, ih]

theorem mem_names_put {n : String} {v : Value} {fields : Fields} {k : Key} :
    k ∈ (put n v fields).map (·.1) ↔ k = .text n ∨ k ∈ fields.map (·.1) := by
  induction fields with
  | nil => simp [put]
  | cons e rest ih =>
    obtain ⟨k', w⟩ := e
    cases k' with
    | text m =>
      by_cases hm : m = n
      · simp [put, hm]
      · simp [put, hm, ih, or_left_comm]
    | _ => simp [put, ih, or_left_comm]

theorem nodup_names_put {n : String} {v : Value} {fields : Fields}
    (h : (fields.map (·.1)).Nodup) :
    ((put n v fields).map (·.1)).Nodup := by
  induction fields with
  | nil => simp [put]
  | cons e rest ih =>
    obtain ⟨k, w⟩ := e
    rw [List.map_cons, List.nodup_cons] at h
    have hrest := ih h.2
    cases k with
    | text m =>
      by_cases hm : m = n
      · simpa [put, hm] using h
      · have hnot : Key.text m ∉ (put n v rest).map (·.1) := by
          rw [mem_names_put, not_or]
          exact ⟨fun he => hm (Key.text.inj he), h.1⟩
        simpa only [put, hm, if_false, List.map_cons, List.nodup_cons] using ⟨hnot, hrest⟩
    | _ =>
      simp only [put, List.map_cons, List.nodup_cons, mem_names_put, not_or]
      exact ⟨⟨by simp, h.1⟩, hrest⟩

end Fields

namespace Value

def kindName : Value → String
  | none => "NoneType"
  | bool _ => "bool"
  | int _ => "int"
  | float _ => "float"
  | text _ => "str"
  | date t => if t.time.isSome then "datetime" else "date"
  | bytes _ => "bytes"
  | list _ => "list"
  | tuple _ => "tuple"
  | record _ => "dict"
  | set _ => "set"
  | element _ => "Element"
  | document _ => "Document"
  | form _ => "FormData"

mutual
def toKey : Value → Except Fault Key
  | bool b => .ok (.bool b)
  | int n => .ok (.int n)
  | float x => .ok (.float x)
  | text s => .ok (.text s)
  | date t => .ok (.date t)
  | bytes bs => .ok (.bytes bs)
  | tuple items => do .ok (.tuple (← toKeys items))
  | none => .ok .none
  | v => .error (.unhashable v.kindName)

def toKeys : List Value → Except Fault (List Key)
  | [] => .ok []
  | v :: rest => do
    let k ← v.toKey
    .ok (k :: (← toKeys rest))
end

def fields : Value → Fields
  | record fields => fields
  | _ => []

def isRecord : Value → Bool
  | record _ => true
  | _ => false

def get? (v : Value) (name : String) : Option Value := v.fields.get? name

/-- Whether there is anything in the value: no zero, nothing empty, not the absent value. -/
def isPresent : Value → Bool
  | none => false
  | bool b => b
  | int n => n != 0
  | float x => !x.isZero
  | text s => s != ""
  | date _ => true
  | bytes bs => !bs.isEmpty
  | list items => !items.isEmpty
  | tuple items => !items.isEmpty
  | record fields => !fields.isEmpty
  | set items => !items.isEmpty
  | element e => !e.children.isEmpty
  | document _ => true
  | form pairs => !pairs.isEmpty

/-- Whether a condition holds that is just this value: the word `false` counts as false. -/
def isTruthy (v : Value) : Bool :=
  match v with
  | text s => s != "" && s != "false"
  | v => v.isPresent

end Value
end Microdata
