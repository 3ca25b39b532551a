import Microdata.Reference
set_option autoImplicit false

namespace Microdata

def Value.identifier? (v : Value) : Option Value :=
  match v.get? idKey with
  | some id => if id.isPresent then some id else Option.none
  | Option.none => Option.none

def Value.checkIdentifier (v : Value) : Except Fault Unit :=
  match v.identifier? with
  | some id => id.shown.map fun _ => ()
  | Option.none => .ok ()

structure Context where
  root : Value
  current : Value
  batch : List Value
  base : String := ""
  /-- How many records have been entered. -/
  depth : Nat := 0
  /-- The identifiers of the records that have been entered by a link, each once. -/
  ancestors : List String := []

namespace Context

def ofRoot (record : Value) (batch : List Value) (base : String) : Context where
  root := record
  current := record
  batch := batch
  base := base
  ancestors := (record.identifier?.map Value.display).toList

/-- The ancestors with those of a record that is entered by a link. -/
def withAncestor (ancestors : List String) (record : Value) : List String :=
  match record.identifier? with
  | some id => if ancestors.contains id.display then ancestors else ancestors ++ [id.display]
  | none => ancestors

def descend (c : Context) (record : Value) (linked : Bool) : Context :=
  { c with
    current := record
    depth := c.depth + 1
    ancestors := if linked then withAncestor c.ancestors record else c.ancestors }

@[simp] theorem current_descend (c : Context) (record : Value) (linked : Bool) :
    (c.descend record linked).current = record := rfl

@[simp] theorem depth_descend (c : Context) (record : Value) (linked : Bool) :
    (c.descend record linked).depth = c.depth + 1 := rfl

/-- Whether a record has been entered by a link on the way here. -/
def isCycle (c : Context) (record : Value) : Bool :=
  match record.identifier? with
  | some id => c.ancestors.contains id.display
  | none => false

theorem isCycle_eq_false_iff {c : Context} {record : Value} :
    c.isCycle record = false ↔
      ∀ id, record.identifier? = some id → id.display ∉ c.ancestors := by
  unfold isCycle
  split
  · rename_i id hid
    simp [hid]
  · rename_i hid
    simp [hid]

theorem mem_withAncestor {ancestors : List String} {record : Value} {id : String} :
    id ∈ withAncestor ancestors record ↔
      id ∈ ancestors ∨ record.identifier?.map Value.display = some id := by
  unfold withAncestor
  split
  · rename_i v hv
    split
    · rename_i hmem
      have hmem := List.contains_iff_mem.mp hmem
      simp only [hv, Option.map_some, Option.some.injEq]
      exact ⟨.inl, fun h => h.elim (fun h => h) fun h => h ▸ hmem⟩
    · simp [hv, eq_comm]
  · rename_i hv
    simp [hv]

end Context
end Microdata
