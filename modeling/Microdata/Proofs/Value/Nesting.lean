import Microdata.Proofs.Value.Conversion
set_option autoImplicit false

/-!
How deep values are nested. Only a value of some depth is given up for its nesting: a text for
markup takes three levels of room for each of its own and four more (`markupIn_nested`), a literal
one (`checkLiteral_nested`).
-/

namespace Microdata

namespace Key

mutual
def depth : Key → Nat
  | tuple items => depths items + 1
  | _ => 0

def depths : List Key → Nat
  | [] => 0
  | k :: rest => max k.depth (depths rest)
end

end Key

namespace Value

mutual
/-- To how many levels the parts of a value are nested. -/
def depth : Value → Nat
  | list items => depths items + 1
  | tuple items => depths items + 1
  | record fields => fieldDepths fields + 1
  | set items => Key.depths items + 1
  | form pairs => pairDepths pairs + 3
  | _ => 0

def depths : List Value → Nat
  | [] => 0
  | v :: rest => max v.depth (depths rest)

def fieldDepths : List (Key × Value) → Nat
  | [] => 0
  | (k, v) :: rest => max (max k.depth v.depth) (fieldDepths rest)

def pairDepths : List (String × Value) → Nat
  | [] => 0
  | (_, v) :: rest => max v.depth (pairDepths rest)
end

variable {v : Value} {items : List Value}

theorem depth_le_depths (h : v ∈ items) : v.depth ≤ depths items := by
  induction items with
  | nil => cases h
  | cons w rest ih =>
    rw [depths]
    rcases List.mem_cons.mp h with rfl | h
    · exact Nat.le_max_left ..
    · exact Nat.le_trans (ih h) (Nat.le_max_right ..)

theorem exists_of_lt_depths {n : Nat} (h : n < depths items) : ∃ v ∈ items, n < v.depth := by
  induction items with
  | nil => cases h
  | cons w rest ih =>
    rw [depths] at h
    obtain h | h : n < w.depth ∨ n < depths rest := by omega
    · exact ⟨w, List.mem_cons_self .., h⟩
    · obtain ⟨v, hv, hdeep⟩ := ih h
      exact ⟨v, List.mem_cons_of_mem w hv, hdeep⟩

theorem depth_le_fieldDepths {fields : Fields} {e : Key × Value} (h : e ∈ fields) :
    e.1.depth ≤ fieldDepths fields ∧ e.2.depth ≤ fieldDepths fields := by
  induction fields with
  | nil => cases h
  | cons entry rest ih =>
    obtain ⟨k, w⟩ := entry
    rw [fieldDepths]
    rcases List.mem_cons.mp h with rfl | h
    · dsimp only
      omega
    · have := ih h
      omega

end Value

def Fault.DeepOnlyIf (b : Prop) (f : Fault) : Prop := f = .tooDeep → b

variable {b : Prop}

theorem OnlyFails.deeper {c : Prop} {α : Type} {x : Except Fault α}
    (h : OnlyFails (Fault.DeepOnlyIf b) x) (hbc : b → c) : OnlyFails (Fault.DeepOnlyIf c) x :=
  h.mono fun _ hf he => hbc (hf he)

/-- One level down, in room that is one level less. -/
theorem OnlyFails.level {room d : Nat} {x : Except Fault Unit}
    (h : OnlyFails (Fault.DeepOnlyIf (room - 1 < d)) x) :
    OnlyFails (Fault.DeepOnlyIf (room < d + 1)) (if room = 0 then .error .tooDeep else x) :=
  .guarded (fun hroom _ => by omega) fun _ => h.deeper (by omega)

theorem Numeric.writeInteger_nested (n : Int) :
    OnlyFails (Fault.DeepOnlyIf b) (writeInteger n) := by
  intro f hf
  obtain ⟨rfl, -⟩ := writeInteger_eq_error hf
  nofun

namespace Key

mutual
theorem checkLiteral_nested (room : Nat) (k : Key) :
    OnlyFails (Fault.DeepOnlyIf (room < k.depth)) (k.checkLiteral room) := by
  match k with
  | int n =>
    rw [checkLiteral]
    exact (Numeric.writeInteger_nested n).map _
  | tuple items =>
    rw [checkLiteral, depth]
    exact .level (checkLiterals_nested (room - 1) items)
  | none | bool _ | float _ | text _ | date _ | bytes _ => exact .ok ()

theorem checkLiterals_nested (room : Nat) (items : List Key) :
    OnlyFails (Fault.DeepOnlyIf (room < depths items)) (checkLiterals room items) := by
  match items with
  | [] => exact .ok ()
  | k :: rest =>
    rw [checkLiterals, depths]
    refine ((checkLiteral_nested room k).deeper (by omega)).bind fun _ _ => ?_
    exact (checkLiterals_nested room rest).deeper (by omega)
end

end Key

namespace Value

mutual
theorem checkLiteral_nested (room : Nat) (v : Value) :
    OnlyFails (Fault.DeepOnlyIf (room < v.depth)) (v.checkLiteral room) := by
  match v with
  | int n =>
    rw [checkLiteral]
    exact (Numeric.writeInteger_nested n).map _
  | list items | tuple items =>
    rw [checkLiteral, depth]
    exact .level (checkLiterals_nested (room - 1) items)
  | record fields =>
    rw [checkLiteral, depth]
    exact .level (checkFields_nested (room - 1) fields)
  | set items =>
    rw [checkLiteral, depth]
    exact .level (Key.checkLiterals_nested (room - 1) items)
  | form pairs =>
    rw [checkLiteral, depth]
    refine .guarded (fun h _ => by omega) fun h => ?_
    exact (checkPairs_nested (room - 3) pairs).deeper (by omega)
  | none | bool _ | float _ | text _ | date _ | bytes _ | element _ | document _ => exact .ok ()

theorem checkLiterals_nested (room : Nat) (items : List Value) :
    OnlyFails (Fault.DeepOnlyIf (room < depths items)) (checkLiterals room items) := by
  match items with
  | [] => exact .ok ()
  | v :: rest =>
    rw [checkLiterals, depths]
    refine ((checkLiteral_nested room v).deeper (by omega)).bind fun _ _ => ?_
    exact (checkLiterals_nested room rest).deeper (by omega)

theorem checkFields_nested (room : Nat) (fields : List (Key × Value)) :
    OnlyFails (Fault.DeepOnlyIf (room < fieldDepths fields)) (checkFields room fields) := by
  match fields with
  | [] => exact .ok ()
  | (k, v) :: rest =>
    rw [checkFields, fieldDepths]
    refine ((Key.checkLiteral_nested room k).deeper (by omega)).bind fun _ _ => ?_
    refine ((checkLiteral_nested room v).deeper (by omega)).bind fun _ _ => ?_
    exact (checkFields_nested room rest).deeper (by omega)

theorem checkPairs_nested (room : Nat) (pairs : List (String × Value)) :
    OnlyFails (Fault.DeepOnlyIf (room < pairDepths pairs)) (checkPairs room pairs) := by
  match pairs with
  | [] => exact .ok ()
  | (_, v) :: rest =>
    rw [checkPairs, pairDepths]
    refine ((checkLiteral_nested room v).deeper (by omega)).bind fun _ _ => ?_
    exact (checkPairs_nested room rest).deeper (by omega)
end

theorem shownIn_nested (room : Nat) (v : Value) :
    OnlyFails (Fault.DeepOnlyIf (room < v.depth)) (v.shownIn room) :=
  (checkLiteral_nested room v).map _

end Value

namespace Json

theorem keyText_nested (k : Key) : OnlyFails (Fault.DeepOnlyIf b) (keyText k) := by
  cases k with
  | int n => exact Numeric.writeInteger_nested n
  | date t | bytes bs | tuple items =>
    rintro _ ⟨⟩
    nofun
  | _ => exact .ok _

mutual
theorem write_nested (layout : Layout) (limit depth : Nat) (v : Value) :
    OnlyFails (Fault.DeepOnlyIf (limit < depth + v.depth)) (write layout limit depth v) := by
  match v with
  | .int n => exact Numeric.writeInteger_nested n
  | .list items | .tuple items =>
    rw [write, Value.depth]
    refine .guarded (fun h _ => by omega) fun h => ?_
    refine OnlyFails.bind ?_ fun texts _ => .ok _
    exact (writeItems_nested layout limit (depth + 1) items).deeper (by omega)
  | .record fields =>
    rw [write, Value.depth]
    refine .guarded (fun h _ => by omega) fun h => ?_
    refine OnlyFails.bind ?_ fun texts _ => .ok _
    exact (writeFields_nested layout limit (depth + 1) fields).deeper (by omega)
  | .set _ | .form _ =>
    rw [write]
    exact ((Value.shownIn_nested _ _).deeper (by omega)).bind fun text _ => .ok _
  | .none | .bool _ | .float _ | .text _ | .date _ | .bytes _ | .element _ | .document _ =>
    exact .ok _

theorem writeItems_nested (layout : Layout) (limit depth : Nat) (items : List Value) :
    OnlyFails (Fault.DeepOnlyIf (limit < depth + Value.depths items))
      (writeItems layout limit depth items) := by
  match items with
  | [] => exact .ok []
  | v :: rest =>
    rw [writeItems, Value.depths]
    refine ((write_nested layout limit depth v).deeper (by omega)).bind fun first _ => ?_
    exact ((writeItems_nested layout limit depth rest).deeper (by omega)).bind fun texts _ => .ok _

theorem writeFields_nested (layout : Layout) (limit depth : Nat) (fields : List (Key × Value)) :
    OnlyFails (Fault.DeepOnlyIf (limit < depth + Value.fieldDepths fields))
      (writeFields layout limit depth fields) := by
  match fields with
  | [] => exact .ok []
  | (k, v) :: rest =>
    rw [writeFields, Value.fieldDepths]
    refine (keyText_nested k).bind fun key _ => ?_
    refine ((write_nested layout limit depth v).deeper (by omega)).bind fun value _ => ?_
    exact ((writeFields_nested layout limit depth rest).deeper (by omega)).bind fun texts _ => .ok _
end

end Json

namespace Value

mutual
theorem markupIn_nested (room : Nat) (v : Value) :
    OnlyFails (Fault.DeepOnlyIf (room < 3 * v.depth + 4)) (v.markupIn room) := by
  match v with
  | int n => exact Numeric.writeInteger_nested n
  | list items | tuple items =>
    rw [markupIn, depth]
    refine .guarded (fun h _ => by omega) fun h => ?_
    refine OnlyFails.bind ?_ fun texts _ => .ok _
    exact (markupsIn_nested (room - 3) items).deeper (by omega)
  | record fields => exact (Json.write_nested .line (room - 4) 0 _).deeper (by omega)
  | set _ | form _ => exact (shownIn_nested room _).deeper (by omega)
  | none | bool _ | float _ | text _ | date _ | bytes _ | element _ | document _ => exact .ok _

theorem markupsIn_nested (room : Nat) (items : List Value) :
    OnlyFails (Fault.DeepOnlyIf (room < 3 * depths items + 4)) (markupsIn room items) := by
  match items with
  | [] => exact .ok []
  | v :: rest =>
    rw [markupsIn, depths]
    refine ((markupIn_nested room v).deeper (by omega)).bind fun first _ => ?_
    exact ((markupsIn_nested room rest).deeper (by omega)).bind fun texts _ => .ok _
end

theorem number?_nested (v : Value) : OnlyFails (Fault.DeepOnlyIf b) v.number? := by
  cases v with
  | int n =>
    rw [number?_int]
    cases Binary64.ofInt? n with
    | none =>
      rintro _ ⟨⟩
      nofun
    | some x => exact .ok _
  | _ => exact .ok _

end Value

/-- A comparison is given up for its nesting only if one of its sides is nested deeply. -/
theorem compareValues_nested (op : BinaryOp) (v w : Value) (room : Nat) :
    OnlyFails (Fault.DeepOnlyIf (room < 3 * max v.depth w.depth + 4))
      (compareValues op v w room) :=
  compareValues_onlyFails op v.number?_nested w.number?_nested
    ((v.markupIn_nested room).deeper (by omega)) ((w.markupIn_nested room).deeper (by omega))

end Microdata
