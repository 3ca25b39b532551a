import Microdata.Expression.Compare
import Microdata.Proofs.Number.Range
set_option autoImplicit false

namespace Microdata

/-- The values that JSON has, with a property of every integer in them. -/
inductive Value.IsJson (P : Int → Prop) : Value → Prop
  | none : IsJson P .none
  | bool (b : Bool) : IsJson P (.bool b)
  | int {n : Int} (h : P n) : IsJson P (.int n)
  | float (x : Binary64) : IsJson P (.float x)
  | text (s : String) : IsJson P (.text s)
  | list {items : List Value} (h : ∀ v ∈ items, IsJson P v) : IsJson P (.list items)
  | record {fields : Fields} (keys : ∀ e ∈ fields, ∃ name, e.1 = .text name)
    (h : ∀ e ∈ fields, IsJson P e.2) : IsJson P (.record fields)

/-- No fault but of one kind. -/
def OnlyFails {α : Type} (Q : Fault → Prop) (x : Except Fault α) : Prop :=
  ∀ f, x = .error f → Q f

namespace OnlyFails

variable {α β : Type} {Q R : Fault → Prop} {x : Except Fault α}

theorem ok (a : α) : OnlyFails Q (.ok a) := by
  intro f hf
  cases hf

theorem bind {f : α → Except Fault β} (hx : OnlyFails Q x)
    (hf : ∀ a, x = .ok a → OnlyFails Q (f a)) : OnlyFails Q (x >>= f) := by
  cases x with
  | error e =>
    rintro _ ⟨⟩
    exact hx e rfl
  | ok a => exact hf a rfl

theorem map (hx : OnlyFails Q x) (f : α → β) : OnlyFails Q (x.map f) := by
  cases x with
  | error e =>
    rintro _ ⟨⟩
    exact hx e rfl
  | ok a => exact ok (f a)

theorem mono (h : OnlyFails Q x) (hQR : ∀ f, Q f → R f) : OnlyFails R x :=
  fun f hf => hQR f (h f hf)

theorem guarded {c : Prop} [Decidable c] (hdeep : c → Q .tooDeep) (h : ¬ c → OnlyFails Q x) :
    OnlyFails Q (if c then .error .tooDeep else x) := by
  split
  · rename_i hc
    rintro _ ⟨⟩
    exact hdeep hc
  · rename_i hc
    exact h hc

end OnlyFails

def Fault.IsOverflow (P : Int → Prop) (f : Fault) : Prop :=
  ∃ n, P n ∧ Binary64.ofInt? n = none ∧ (f = .integerTooLarge ∨ f = .integerTooLong)

def Fault.Arises (P : Int → Prop) (f : Fault) : Prop := f = .tooDeep ∨ f.IsOverflow P

variable {P : Int → Prop} {v w : Value}

theorem Numeric.writeInteger_fails {n : Int} (h : P n) :
    OnlyFails (Fault.Arises P) (writeInteger n) := by
  intro f hf
  obtain ⟨hlong, hrange⟩ := writeInteger_eq_error hf
  exact .inr ⟨n, h, hrange, .inr hlong⟩

namespace Json

variable {Q : Fault → Prop} {layout : Layout} {limit depth : Nat}

theorem writeItems_fails {items : List Value}
    (h : ∀ v ∈ items, OnlyFails Q (write layout limit depth v)) :
    OnlyFails Q (writeItems layout limit depth items) := by
  induction items with
  | nil => exact .ok []
  | cons v rest ih =>
    have hrest := ih fun w hw => h w (List.mem_cons_of_mem v hw)
    rw [writeItems]
    refine (h v (List.mem_cons_self ..)).bind fun first _ => ?_
    exact hrest.bind fun texts _ => .ok (first :: texts)

theorem writeFields_fails {fields : Fields} (keys : ∀ e ∈ fields, OnlyFails Q (keyText e.1))
    (h : ∀ e ∈ fields, OnlyFails Q (write layout limit depth e.2)) :
    OnlyFails Q (writeFields layout limit depth fields) := by
  induction fields with
  | nil => exact .ok []
  | cons e rest ih =>
    obtain ⟨k, v⟩ := e
    have hrest := ih (fun w hw => keys w (List.mem_cons_of_mem _ hw))
      fun w hw => h w (List.mem_cons_of_mem _ hw)
    rw [writeFields]
    refine (keys (k, v) (List.mem_cons_self ..)).bind fun key _ => ?_
    refine (h (k, v) (List.mem_cons_self ..)).bind fun value _ => ?_
    exact hrest.bind fun texts _ => .ok _

theorem write_fails (h : v.IsJson P) (layout : Layout) (limit depth : Nat) :
    OnlyFails (Fault.Arises P) (write layout limit depth v) := by
  induction h generalizing depth with
  | none | bool | float | text => exact .ok _
  | int h => exact Numeric.writeInteger_fails h
  | list _ ih =>
    rw [write]
    refine .guarded (fun _ => .inl rfl) fun _ => ?_
    exact (writeItems_fails fun v hv => ih v hv (depth + 1)).bind fun texts _ => .ok _
  | record keys _ ih =>
    rw [write]
    refine .guarded (fun _ => .inl rfl) fun _ => ?_
    refine (writeFields_fails (fun e he => ?_) fun e he => ih e he (depth + 1)).bind
      fun texts _ => .ok _
    obtain ⟨name, hname⟩ := keys e he
    rw [hname]
    exact .ok name

end Json

namespace Value

theorem number?_fails (h : v.IsJson P) : OnlyFails (Fault.Arises P) v.number? := by
  cases h with
  | @int n hn =>
    rw [number?_int]
    cases hrange : Binary64.ofInt? n with
    | none =>
      rintro _ ⟨⟩
      exact .inr ⟨n, hn, hrange, .inl rfl⟩
    | some x => exact .ok _
  | _ => exact .ok _

variable {Q : Fault → Prop} {room : Nat}

theorem markupsIn_fails {items : List Value} (h : ∀ v ∈ items, OnlyFails Q (v.markupIn room)) :
    OnlyFails Q (markupsIn room items) := by
  induction items with
  | nil => exact .ok []
  | cons v rest ih =>
    have hrest := ih fun w hw => h w (List.mem_cons_of_mem v hw)
    rw [markupsIn]
    refine (h v (List.mem_cons_self ..)).bind fun first _ => ?_
    exact hrest.bind fun texts _ => .ok _

theorem markupIn_fails (h : v.IsJson P) (room : Nat) :
    OnlyFails (Fault.Arises P) (v.markupIn room) := by
  induction h generalizing room with
  | none | bool | float | text => exact .ok _
  | int h => exact Numeric.writeInteger_fails h
  | list _ ih =>
    rw [markupIn]
    refine .guarded (fun _ => .inl rfl) fun _ => ?_
    exact (markupsIn_fails fun v hv => ih v hv (room - 3)).bind fun texts _ => .ok _
  | record keys h _ => exact Json.write_fails (.record keys h) .line (room - 4) 0

theorem checkLiterals_fails {items : List Value}
    (h : ∀ v ∈ items, OnlyFails Q (v.checkLiteral room)) :
    OnlyFails Q (checkLiterals room items) := by
  induction items with
  | nil => exact .ok ()
  | cons v rest ih =>
    have hrest := ih fun w hw => h w (List.mem_cons_of_mem v hw)
    rw [checkLiterals]
    exact (h v (List.mem_cons_self ..)).bind fun _ _ => hrest

theorem checkFields_fails {fields : Fields}
    (keys : ∀ e ∈ fields, OnlyFails Q (e.1.checkLiteral room))
    (h : ∀ e ∈ fields, OnlyFails Q (e.2.checkLiteral room)) :
    OnlyFails Q (checkFields room fields) := by
  induction fields with
  | nil => exact .ok ()
  | cons e rest ih =>
    obtain ⟨k, v⟩ := e
    have hrest := ih (fun w hw => keys w (List.mem_cons_of_mem _ hw))
      fun w hw => h w (List.mem_cons_of_mem _ hw)
    rw [checkFields]
    refine (keys (k, v) (List.mem_cons_self ..)).bind fun _ _ => ?_
    exact (h (k, v) (List.mem_cons_self ..)).bind fun _ _ => hrest

theorem checkLiteral_fails (h : v.IsJson P) (room : Nat) :
    OnlyFails (Fault.Arises P) (v.checkLiteral room) := by
  induction h generalizing room with
  | none | bool | float | text => exact .ok _
  | int h =>
    rw [checkLiteral]
    exact (Numeric.writeInteger_fails h).map _
  | list _ ih =>
    rw [checkLiteral]
    refine .guarded (fun _ => .inl rfl) fun _ => ?_
    exact checkLiterals_fails fun v hv => ih v hv (room - 1)
  | record keys _ ih =>
    rw [checkLiteral]
    refine .guarded (fun _ => .inl rfl) fun _ => ?_
    refine checkFields_fails (fun e he => ?_) fun e he => ih e he (room - 1)
    obtain ⟨name, hname⟩ := keys e he
    rw [hname]
    exact .ok ()

theorem IsJson.mem_fields (h : v.IsJson P) : ∀ e ∈ v.fields, e.2.IsJson P := by
  cases h with
  | record _ h => exact h
  | _ =>
    intro e he
    cases he

end Value

theorem compareValues_onlyFails {Q : Fault → Prop} {room : Nat} (op : BinaryOp)
    (hx : OnlyFails Q v.number?) (hy : OnlyFails Q w.number?) (hs : OnlyFails Q (v.markupIn room))
    (ht : OnlyFails Q (w.markupIn room)) : OnlyFails Q (compareValues op v w room) := by
  refine OnlyFails.map ?_ _
  refine hx.bind fun x _ => hy.bind fun y _ => ?_
  split
  · exact .ok _
  · exact hs.bind fun s _ => ht.bind fun t _ => .ok _

theorem compareValues_fails (op : BinaryOp) (hv : v.IsJson P) (hw : w.IsJson P) (room : Nat) :
    OnlyFails (Fault.Arises P) (compareValues op v w room) :=
  compareValues_onlyFails op (Value.number?_fails hv) (Value.number?_fails hw)
    (Value.markupIn_fails hv room) (Value.markupIn_fails hw room)

end Microdata
