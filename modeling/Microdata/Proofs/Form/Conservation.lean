import Microdata.Proofs.Form.Assembly
set_option autoImplicit false

/-!
What a record holds before and after a value is stored at a path. Main statement: `store_conserves`,
either nothing has changed, or one atom has been added and all others are still there, though
perhaps in another place. A path that is given up is given up before anything has been made for it:
what is made for the next part of a path always takes that part (`store_fresh_ne_ignored`).
-/

namespace Microdata

namespace Value

/-- Whether a value is there and is no list or record, so that nothing is ever stored inside it. -/
def isAtom : Value → Bool
  | none | list _ | record _ => false
  | _ => true

mutual
/-- The atoms in a value, in order. -/
def atoms : Value → List Value
  | none => []
  | list items => atomsOfItems items
  | record fields => atomsOfFields fields
  | v => [v]

def atomsOfItems : List Value → List Value
  | [] => []
  | v :: rest => v.atoms ++ atomsOfItems rest

def atomsOfFields : Fields → List Value
  | [] => []
  | (_, v) :: rest => v.atoms ++ atomsOfFields rest
end

theorem atoms_of_isAtom {v : Value} (h : v.isAtom = true) : v.atoms = [v] := by
  cases v with
  | none | list | record => cases h
  | _ => rw [atoms] <;> nofun

theorem atoms_none : Value.none.atoms = [] := by rw [atoms]

theorem atoms_list (items : List Value) : (list items).atoms = atomsOfItems items := by rw [atoms]

theorem atomsOfItems_append (a b : List Value) :
    atomsOfItems (a ++ b) = atomsOfItems a ++ atomsOfItems b := by
  induction a with
  | nil => rfl
  | cons v a ih => simp only [List.cons_append, atomsOfItems, ih, List.append_assoc]

theorem atomsOfItems_singleton (v : Value) : atomsOfItems [v] = v.atoms := by
  rw [atomsOfItems, atomsOfItems, List.append_nil]

theorem atomsOfItems_replicate (n : Nat) : atomsOfItems (List.replicate n none) = [] := by
  induction n with
  | zero => rfl
  | succ n ih => rw [List.replicate_succ, atomsOfItems, atoms_none, ih, List.append_nil]

theorem atoms_put (name : String) (v : Value) (fields : Fields) :
    (atomsOfFields (fields.put name v) ++ ((fields.get? name).getD none).atoms).Perm
      (v.atoms ++ atomsOfFields fields) := by
  induction fields with
  | nil => simp [Fields.put, Fields.get?, atomsOfFields, atoms_none]
  | cons e rest ih =>
    obtain ⟨k, w⟩ := e
    have hlater : (w.atoms ++ atomsOfFields (Fields.put name v rest) ++
        ((Fields.get? name rest).getD none).atoms).Perm
          (v.atoms ++ (w.atoms ++ atomsOfFields rest)) := by
      rw [List.append_assoc]
      exact (ih.append_left w.atoms).trans (List.perm_append_comm_assoc ..)
    cases k with
    | text n =>
      by_cases hn : n = name
      · simp only [Fields.put, Fields.get?, hn, if_true, atomsOfFields, Option.getD_some,
          List.append_assoc]
        exact List.perm_append_comm.append_left v.atoms
      · simpa only [Fields.put, Fields.get?, hn, if_false, atomsOfFields] using hlater
    | _ => simpa only [Fields.put, Fields.get?, atomsOfFields] using hlater

theorem atoms_set (items : List Value) {i : Nat} (h : i < items.length) (v : Value) :
    (atomsOfItems (items.set i v) ++ ((items[i]?).getD none).atoms).Perm
      (v.atoms ++ atomsOfItems items) := by
  induction items generalizing i with
  | nil => cases h
  | cons w rest ih =>
    cases i with
    | zero =>
      simp only [List.set_cons_zero, List.getElem?_cons_zero, Option.getD_some, atomsOfItems,
        List.append_assoc]
      exact List.perm_append_comm.append_left v.atoms
    | succ i =>
      have hrest := ih (Nat.lt_of_succ_lt_succ h)
      simp only [List.set_cons_succ, List.getElem?_cons_succ, atomsOfItems, List.append_assoc]
      exact (hrest.append_left w.atoms).trans (List.perm_append_comm_assoc ..)

/-- In a list the new value stands for the one that was at the position; what the list is filled up
with is no atom. -/
theorem atoms_setItem (items : List Value) (i : Nat) (v : Value) :
    (atomsOfItems (setItem items i v) ++ ((items[i]?).getD none).atoms).Perm
      (v.atoms ++ atomsOfItems items) := by
  have hlength : i < (items ++ List.replicate (i + 1 - items.length) none).length := by
    rw [List.length_append, List.length_replicate]
    omega
  have hold : ((items ++ List.replicate (i + 1 - items.length) none)[i]?).getD none =
      (items[i]?).getD none := by
    by_cases hi : i < items.length
    · rw [List.getElem?_append_left hi]
    · rw [List.getElem?_append_right (by omega), List.getElem?_replicate,
        List.getElem?_eq_none (by omega)]
      split <;> rfl
  have hset := atoms_set _ hlength v
  rwa [hold, atomsOfItems_append, atomsOfItems_replicate, List.append_nil] at hset

variable {c v w : Value} {part : String} {step : Step}

theorem cases_step? (hc : c.isContainer = true) (h : c.step? part = .ok (some step)) :
    (∃ fields, c = .record fields ∧ step = .name part) ∨
      ∃ items i, c = .list items ∧ step = .index i := by
  cases c with
  | record fields =>
    cases h
    exact .inl ⟨fields, rfl, rfl⟩
  | list items =>
    rw [step?] at h
    · split at h
      · obtain ⟨i, -, hi⟩ := bind_eq_ok.mp h
        cases hi
        exact .inr ⟨items, i, rfl, rfl⟩
      · cases h
    · exact fun _ he => by cases he
  | _ => cases hc

theorem atoms_setAt (hc : c.isContainer = true) (h : c.step? part = .ok (some step)) (w : Value) :
    ((c.setAt step w).atoms ++ ((c.at? step).getD none).atoms).Perm (w.atoms ++ c.atoms) := by
  rcases cases_step? hc h with ⟨fields, rfl, rfl⟩ | ⟨items, i, rfl, rfl⟩
  · simp only [setAt, at?, atoms]
    exact atoms_put part w fields
  · simp only [setAt, at?, atoms]
    exact atoms_setItem items i w

theorem perm_atoms_setAt (hc : c.isContainer = true) (h : c.step? part = .ok (some step))
    (hw : w.atoms.Perm (v :: ((c.at? step).getD none).atoms)) :
    (c.setAt step w).atoms.Perm (v :: c.atoms) := by
  have hwhole : (w.atoms ++ c.atoms).Perm (v :: c.atoms ++ ((c.at? step).getD none).atoms) :=
    (hw.append_right c.atoms).trans (List.perm_append_comm.cons v)
  exact (List.perm_append_right_iff _).mp ((atoms_setAt hc h w).trans hwhole)

theorem put_of_get? {fields : Fields} {name : String} (h : fields.get? name = some v) :
    fields.put name v = fields := by
  induction fields with
  | nil => cases h
  | cons e rest ih =>
    obtain ⟨k, w⟩ := e
    cases k with
    | text n =>
      by_cases hn : n = name
      · simp only [Fields.get?, hn, if_true, Option.some.injEq] at h
        simp only [Fields.put, hn, if_true, h]
      · simp only [Fields.get?, hn, if_false] at h
        simp only [Fields.put, hn, if_false, ih h]
    | _ => exact congrArg (_ :: ·) (ih h)

theorem setAt_of_at? (h : c.at? step = some v) : c.setAt step v = c := by
  unfold at? at h
  split at h
  · exact congrArg record (put_of_get? h)
  · rename_i items i
    obtain ⟨hi, rfl⟩ := List.getElem?_eq_some_iff.mp h
    have hfull : i + 1 - items.length = 0 := by omega
    simp only [setAt, setItem, hfull, List.replicate_zero, List.append_nil, List.set_getElem_self]
  · obtain ⟨hi, rfl⟩ := List.getElem?_eq_some_iff.mp h
    simp only [setAt, List.set_getElem_self]
  · rfl
  · cases h

theorem conserves_vacant (hc : c.isContainer = true) (h : c.step? part = .ok (some step))
    (hold : c.at? step = Option.none ∨ c.at? step = some none) (hv : v.isAtom = true)
    (listed : Bool) {placement : Placement}
    (hp : (c.storeLast step listed v).result = .ok placement) :
    placement ≠ .ignored ∧ (c.storeLast step listed v).container.atoms.Perm (v :: c.atoms) := by
  have hnothing : ((c.at? step).getD none).atoms = [] := by
    rcases hold with hold | hold <;> rw [hold, Option.getD, atoms_none]
  have hput {w : Value} (hw : w.atoms = [v]) : (c.setAt step w).atoms.Perm (v :: c.atoms) :=
    perm_atoms_setAt hc h (by rw [hw, hnothing])
  rw [storeLast_vacant hc hold] at hp ⊢
  cases listed with
  | true =>
    cases hp
    exact ⟨nofun, hput (by rw [atoms_list, atomsOfItems_singleton, atoms_of_isAtom hv])⟩
  | false =>
    cases hp
    exact ⟨nofun, hput (atoms_of_isAtom hv)⟩

theorem storeLast_conserves (hc : c.isContainer = true) (h : c.step? part = .ok (some step))
    (hv : v.isAtom = true) (listed : Bool) {placement : Placement}
    (hp : (c.storeLast step listed v).result = .ok placement) :
    placement ≠ .ignored ∧ (c.storeLast step listed v).container.atoms.Perm (v :: c.atoms) := by
  have hrefusal := refusal?_of_isContainer hc step
  have hbehind (items : List Value) :
      (list (items ++ [v])).atoms.Perm (v :: (list items).atoms) := by
    rw [atoms_list, atomsOfItems_append, atomsOfItems_singleton, atoms_of_isAtom hv, atoms_list]
    exact List.perm_append_singleton v _
  have hpair (old : Value) : (list [old, v]).atoms.Perm (v :: old.atoms) := by
    have h := hbehind [old]
    rwa [atoms_list [old], atomsOfItems_singleton] at h
  cases hold : c.at? step with
  | none => exact conserves_vacant hc h (.inl hold) hv listed hp
  | some old =>
    have hput {w : Value} (hw : w.atoms.Perm (v :: old.atoms)) :=
      perm_atoms_setAt hc h (w := w) (by rwa [hold])
    cases old with
    | none => exact conserves_vacant hc h (.inr hold) hv listed hp
    | list items =>
      simp only [storeLast, hold] at hp ⊢
      cases hp
      exact ⟨by simp, hput (hbehind items)⟩
    | _ =>
      simp only [storeLast, hold, hrefusal] at hp ⊢
      cases hp
      exact ⟨by simp, hput (hpair _)⟩

theorem isContainer_fresh (next : String) : (fresh next).isContainer = true := by
  unfold fresh
  split <;> rfl

theorem step?_fresh {next : String} {placed : Option Step}
    (h : (fresh next).step? next = .ok placed) :
    ∃ step, placed = some step ∧ (fresh next).at? step = Option.none := by
  unfold fresh at h ⊢
  split at h
  · rename_i hn
    rw [step?] at h
    · rw [if_pos hn] at h
      obtain ⟨i, -, hi⟩ := bind_eq_ok.mp h
      cases hi
      exact ⟨.index i, rfl, by simp [hn, at?]⟩
    · exact fun _ he => by cases he
  · rename_i hn
    cases h
    exact ⟨.name next, rfl, by simp [hn, at?, Fields.get?]⟩

theorem under_ne_ignored {step : Step} {placement : Placement} (h : placement ≠ .ignored) :
    placement.under step ≠ .ignored := by
  cases placement with
  | ignored => exact absurd rfl h
  | _ => nofun

theorem cases_entered (c : Value) (step : Step) (next : String) :
    (c.entered step next = fresh next ∧ (c.at? step).getD none = none) ∨
      c.at? step = some (c.entered step next) := by
  unfold entered
  cases c.at? step with
  | none => exact .inl ⟨rfl, rfl⟩
  | some old =>
    cases old with
    | none => exact .inl ⟨rfl, rfl⟩
    | _ => exact .inr rfl

theorem entered_of_vacant (hold : c.at? step = Option.none) (next : String) :
    c.entered step next = fresh next := by
  simp only [entered, hold]

theorem store_stopped (hstep : c.step? part = .ok (some step)) {next : String}
    (hin : (c.entered step next).isContainer ≠ true) (rest : List String) (listed : Bool)
    (v : Value) : c.store (part :: next :: rest) listed v = ⟨c, .ok .ignored⟩ := by
  unfold entered at hin
  generalize hold : c.at? step = there at hin
  cases there with
  | none => exact absurd (isContainer_fresh next) hin
  | some old =>
    cases old with
    | none => exact absurd (isContainer_fresh next) hin
    | _ => simp only [store, hstep, hold, hin, Bool.false_eq_true, if_false]

theorem atoms_fresh (next : String) : (fresh next).atoms = [] := by
  unfold fresh
  split <;> simp only [atoms, atomsOfItems, atomsOfFields]

theorem store_fresh_ne_ignored (next : String) (rest : List String) (listed : Bool)
    {placement : Placement}
    (hp : ((fresh next).store (next :: rest) listed v).result = .ok placement) :
    placement ≠ .ignored := by
  have hc (next : String) := isContainer_fresh next
  induction rest generalizing next placement with
  | nil =>
    cases hstep : (fresh next).step? next with
    | error f =>
      simp only [store, hstep] at hp
      cases hp
    | ok placed =>
      obtain ⟨step, rfl, hold⟩ := step?_fresh hstep
      rw [store_last hstep, storeLast_vacant (hc next) (.inl hold)] at hp
      split at hp <;> cases hp <;> simp
  | cons after rest ih =>
    cases hstep : (fresh next).step? next with
    | error f =>
      simp only [store, hstep] at hp
      cases hp
    | ok placed =>
      obtain ⟨step, rfl, hold⟩ := step?_fresh hstep
      have hmade := entered_of_vacant hold after
      rw [store_cons (hc next) hstep (hmade ▸ hc after), hmade] at hp
      obtain ⟨inner, hinner, rfl⟩ := map_eq_ok.mp hp
      exact under_ne_ignored (ih after hinner)

/-- Storing an atom has changed nothing, or has added the atom and lost none. -/
def Conserves (c v : Value) (placement : Placement) (after : Value) : Prop :=
  placement = .ignored ∧ after = c ∨ placement ≠ .ignored ∧ after.atoms.Perm (v :: c.atoms)

/-- The rest of a path in what it goes on in, and what that comes to in the whole. What is there is
put back as it was if the rest is given up; what has been made never is. -/
theorem conserves_under (hc : c.isContainer = true) (hstep : c.step? part = .ok (some step))
    {next : String} {rest : List String} {listed : Bool} {inner : Placement}
    (hinner : ((c.entered step next).store (next :: rest) listed v).result = .ok inner)
    {after : Value} (h : Conserves (c.entered step next) v inner after) :
    Conserves c v (inner.under step) (c.setAt step after) := by
  obtain ⟨hmade, hold⟩ | hold := c.cases_entered step next
  · rw [hmade] at hinner h
    have hne := store_fresh_ne_ignored next rest listed hinner
    obtain ⟨he, -⟩ | ⟨-, hatoms⟩ := h
    · exact absurd he hne
    · rw [atoms_fresh] at hatoms
      exact .inr ⟨under_ne_ignored hne, perm_atoms_setAt hc hstep (by rwa [hold, atoms_none])⟩
  · obtain ⟨rfl, rfl⟩ | ⟨hne, hatoms⟩ := h
    · exact .inl ⟨rfl, setAt_of_at? hold⟩
    · exact .inr ⟨under_ne_ignored hne, perm_atoms_setAt hc hstep (by rwa [hold])⟩

theorem conserves_store (hc : c.isContainer = true) (hv : v.isAtom = true) (parts : List String)
    (listed : Bool) {placement : Placement}
    (hp : (c.store parts listed v).result = .ok placement) :
    Conserves c v placement (c.store parts listed v).container := by
  induction parts generalizing c placement with
  | nil =>
    cases hp
    exact .inl ⟨rfl, rfl⟩
  | cons part rest ih =>
    cases hstep : c.step? part with
    | error f =>
      simp only [store, hstep] at hp
      cases hp
    | ok placed =>
      cases placed with
      | none =>
        simp only [store, hstep] at hp ⊢
        cases hp
        exact .inl ⟨rfl, rfl⟩
      | some step =>
        cases rest with
        | nil =>
          rw [store_last hstep] at hp ⊢
          exact .inr (storeLast_conserves hc hstep hv listed hp)
        | cons next rest =>
          by_cases hin : (c.entered step next).isContainer = true
          · rw [store_cons hc hstep hin] at hp ⊢
            obtain ⟨inner, hinner, rfl⟩ := map_eq_ok.mp hp
            exact conserves_under hc hstep hinner (ih hin hinner)
          · rw [store_stopped hstep hin] at hp ⊢
            cases hp
            exact .inl ⟨rfl, rfl⟩

end Value

/-- Whatever is stored at whatever path: the record is what it was before, or it has one more atom,
the value, beside all atoms that it had. -/
theorem store_conserves (fields : Fields) (path : String) {v : Value} (hv : v.isAtom = true)
    {after : Value} {placement : Placement}
    (h : (Value.record fields).store (Path.ofText path).parts (Path.ofText path).isListed v =
      ⟨after, .ok placement⟩) :
    placement = .ignored ∧ after = .record fields ∨
      placement ≠ .ignored ∧ after.atoms.Perm (v :: (Value.record fields).atoms) := by
  have hresult : ((Value.record fields).store (Path.ofText path).parts (Path.ofText path).isListed
      v).result = .ok placement := by rw [h]
  have hconserves := Value.conserves_store rfl hv _ _ hresult
  rwa [h] at hconserves

def draft : Fields :=
  [(.text "title", .text "Notes"), (.text "lines", .list [.none, .text "x", .int 2])]

theorem store_conserves_draft :
    (Value.text "y").isAtom = true ∧
      (Value.record draft).store (Path.ofText "lines[1]").parts (Path.ofText "lines[1]").isListed
          (.text "y") =
        ⟨.record [(.text "title", .text "Notes"),
            (.text "lines", .list [.none, .list [.text "x", .text "y"], .int 2])],
          .ok (.joined [.name "lines", .index 1])⟩ ∧
      [Value.text "Notes", .text "x", .text "y", .int 2].Perm
        [.text "y", .text "Notes", .text "x", .int 2] := by
  have hatom : (Value.text "y").isAtom = true := rfl
  have h : (Value.record draft).store (Path.ofText "lines[1]").parts
      (Path.ofText "lines[1]").isListed (.text "y") =
        ⟨.record [(.text "title", .text "Notes"),
            (.text "lines", .list [.none, .list [.text "x", .text "y"], .int 2])],
          .ok (.joined [.name "lines", .index 1])⟩ := rfl
  refine ⟨hatom, h, ?_⟩
  obtain ⟨hplacement, -⟩ | ⟨-, hatoms⟩ := store_conserves draft "lines[1]" hatom h
  · cases hplacement
  · simpa [draft, Value.atoms, Value.atomsOfItems, Value.atomsOfFields] using hatoms

end Microdata
