import Microdata.Proofs.Form.Notation
set_option autoImplicit false

namespace Microdata

namespace Fields

variable {fields : Fields} {n : String} {v : Value}

theorem get?_of_mem (hd : (fields.map (·.1)).Nodup) (h : (.text n, v) ∈ fields) :
    Fields.get? n fields = some v := by
  induction fields with
  | nil => cases h
  | cons e rest ih =>
    obtain ⟨k, w⟩ := e
    simp only [List.map_cons, List.nodup_cons] at hd
    rcases List.mem_cons.mp h with he | hm
    · cases he
      simp [get?]
    · have hrest := ih hd.2 hm
      cases k with
      | text m =>
        have hne : m ≠ n := by
          rintro rfl
          exact hd.1 (List.mem_map_of_mem (f := (·.1)) hm)
        simp [get?, hne, hrest]
      | _ => exact hrest

end Fields

namespace Value

/-- Something in it shows that the value is there and what it is: it is not empty, and no record
with a number for a name. -/
def Shows : Value → Prop
  | list items => items ≠ []
  | record fields => fields ≠ [] ∧ ∀ e ∈ fields, ∀ n, e.1 = .text n → isNumber n = false
  | _ => True

/-- Texts in lists and records one inside the other, whose names can stand in a path. No position is
so great that its digits cannot be read. -/
inductive Tree : Value → Prop
  | text (s : String) : Tree (.text s)
  | list {items : List Value} (length : items.length ≤ Nat.pow 10 digitLimit)
      (trees : ∀ v ∈ items, Tree v) (shown : ∀ v ∈ items, v.Shows) : Tree (.list items)
  | record {fields : Fields} (names : ∀ e ∈ fields, ∃ n, e.1 = .text n ∧ IsPart n)
      (distinct : (fields.map (·.1)).Nodup) (trees : ∀ e ∈ fields, Tree e.2)
      (shown : ∀ e ∈ fields, e.2.Shows) : Tree (.record fields)

mutual
/-- The texts in a value, each with its place. -/
def leaves : Value → List (Place × String)
  | text s => [([], s)]
  | list items => leavesOfItems 0 items
  | record fields => leavesOfFields fields
  | _ => []

def leavesOfItems (i : Nat) : List Value → List (Place × String)
  | [] => []
  | v :: rest => v.leaves.map (fun l => (.index i :: l.1, l.2)) ++ leavesOfItems (i + 1) rest

def leavesOfFields : Fields → List (Place × String)
  | [] => []
  | (.text n, v) :: rest => v.leaves.map (fun l => (.name n :: l.1, l.2)) ++ leavesOfFields rest
  | _ :: rest => leavesOfFields rest
end

theorem mem_leavesOfItems {items : List Value} {i : Nat} {l : Place × String} :
    l ∈ leavesOfItems i items ↔
      ∃ k v, items[k]? = some v ∧ ∃ q, l.1 = .index (i + k) :: q ∧ (q, l.2) ∈ v.leaves := by
  induction items generalizing i with
  | nil => simp [leavesOfItems]
  | cons v rest ih =>
    rw [leavesOfItems, List.mem_append, ih, List.mem_map]
    constructor
    · rintro (⟨l', hl', rfl⟩ | ⟨k, w, hk, q, hq, hw⟩)
      · exact ⟨0, v, rfl, l'.1, rfl, hl'⟩
      · exact ⟨k + 1, w, by simpa using hk, q, by rw [hq, Nat.add_right_comm, Nat.add_assoc], hw⟩
    · rintro ⟨k, w, hk, q, hq, hw⟩
      cases k with
      | zero =>
        obtain rfl : v = w := by simpa using hk
        exact .inl ⟨(q, l.2), hw, Prod.ext hq.symm rfl⟩
      | succ k => exact .inr ⟨k, w, by simpa using hk, q, by rw [hq]; congr 2; omega, hw⟩

theorem mem_leavesOfFields {fields : Fields} {l : Place × String} :
    l ∈ leavesOfFields fields ↔
      ∃ n v, (.text n, v) ∈ fields ∧ ∃ q, l.1 = .name n :: q ∧ (q, l.2) ∈ v.leaves := by
  induction fields with
  | nil => simp [leavesOfFields]
  | cons e rest ih =>
    obtain ⟨k, v⟩ := e
    cases k with
    | text m =>
      rw [leavesOfFields, List.mem_append, ih, List.mem_map]
      constructor
      · rintro (⟨l', hl', rfl⟩ | h)
        · exact ⟨m, v, List.mem_cons_self .., l'.1, rfl, hl'⟩
        · obtain ⟨n, w, hm, hq⟩ := h
          exact ⟨n, w, List.mem_cons_of_mem _ hm, hq⟩
      · rintro ⟨n, w, hm, q, hq, hw⟩
        rcases List.mem_cons.mp hm with he | hm
        · cases he
          exact .inl ⟨(q, l.2), hw, Prod.ext hq.symm rfl⟩
        · exact .inr ⟨n, w, hm, q, hq, hw⟩
    | _ =>
      rw [leavesOfFields, ih]
      · refine ⟨fun ⟨n, w, hm, hq⟩ => ⟨n, w, List.mem_cons_of_mem _ hm, hq⟩,
          fun ⟨n, w, hm, hq⟩ => ?_⟩
        rcases List.mem_cons.mp hm with he | hm
        · cases he
        · exact ⟨n, w, hm, hq⟩
      · nofun

theorem mem_leaves_iff {r : Value} (hr : Tree r) (hc : r.isContainer = true) {p : Place}
    {s : String} :
    (p, s) ∈ r.leaves ↔ ∃ step q v, p = step :: q ∧ r.at? step = some v ∧ (q, s) ∈ v.leaves := by
  cases hr with
  | text => cases hc
  | @list items _ _ _ =>
    rw [leaves, mem_leavesOfItems]
    constructor
    · rintro ⟨k, v, hk, q, hq, hv⟩
      exact ⟨.index k, q, v, by simpa using hq, hk, hv⟩
    · rintro ⟨step, q, v, rfl, hv, hq⟩
      cases step with
      | index k => exact ⟨k, v, hv, q, by simp, hq⟩
      | name n => cases hv
  | @record fields _ hd _ _ =>
    rw [leaves, mem_leavesOfFields]
    constructor
    · rintro ⟨n, v, hm, q, hq, hv⟩
      exact ⟨.name n, q, v, hq, Fields.get?_of_mem hd hm, hv⟩
    · rintro ⟨step, q, v, rfl, hv, hq⟩
      cases step with
      | index k => cases hv
      | name n => exact ⟨n, v, Fields.mem_of_get? hv, q, rfl, hq⟩

theorem Tree.at? {r v : Value} (hr : Tree r) (hc : r.isContainer = true) {step : Step}
    (h : r.at? step = some v) : Tree v ∧ v.Shows := by
  cases hr with
  | text => cases hc
  | @list items _ ht hs =>
    cases step with
    | index k =>
      have hm : v ∈ items := List.mem_of_getElem? h
      exact ⟨ht v hm, hs v hm⟩
    | name n => cases h
  | @record fields _ _ ht hs =>
    cases step with
    | index k => cases h
    | name n =>
      have hm := Fields.mem_of_get? h
      exact ⟨ht _ hm, hs _ hm⟩

theorem leaves_text (s : String) : (text s).leaves = [([], s)] := by rw [leaves]

theorem exists_mem_leaves {r : Value} (hr : Tree r) (hs : r.Shows) : ∃ l, l ∈ r.leaves := by
  induction hr with
  | text s => exact ⟨([], s), by simp [leaves]⟩
  | @list items hl ht hsh ih =>
    cases items with
    | nil => exact absurd rfl hs
    | cons v rest =>
      obtain ⟨l, hl⟩ := ih v (List.mem_cons_self ..) (hsh v (List.mem_cons_self ..))
      refine ⟨(.index 0 :: l.1, l.2), ?_⟩
      rw [leaves, mem_leavesOfItems]
      exact ⟨0, v, rfl, l.1, rfl, hl⟩
  | @record fields hn hd ht hsh ih =>
    cases fields with
    | nil => exact absurd rfl hs.1
    | cons e rest =>
      obtain ⟨n, he, -⟩ := hn e (List.mem_cons_self ..)
      obtain ⟨l, hl⟩ := ih e (List.mem_cons_self ..) (hsh e (List.mem_cons_self ..))
      refine ⟨(.name n :: l.1, l.2), ?_⟩
      rw [leaves, mem_leavesOfFields]
      refine ⟨n, e.2, ?_, l.1, rfl, hl⟩
      rw [← he]
      exact List.mem_cons_self ..

theorem isPart_of_mem_leaves {r : Value} (hr : Tree r) {l : Place × String} (hl : l ∈ r.leaves)
    {n : String} (hn : .name n ∈ l.1) : IsPart n := by
  induction hr generalizing l with
  | text s =>
    rw [leaves_text, List.mem_singleton] at hl
    subst hl
    cases hn
  | list _ _ _ ih =>
    rw [leaves, mem_leavesOfItems] at hl
    obtain ⟨k, v, hk, q, hq, hv⟩ := hl
    rw [hq, List.mem_cons] at hn
    rcases hn with he | hn
    · cases he
    · exact ih v (List.mem_of_getElem? hk) hv hn
  | record hp _ _ _ ih =>
    rw [leaves, mem_leavesOfFields] at hl
    obtain ⟨m, v, hm, q, hq, hv⟩ := hl
    rw [hq, List.mem_cons] at hn
    rcases hn with he | hn
    · cases he
      obtain ⟨m, he, hpart⟩ := hp _ hm
      cases he
      exact hpart
    · exact ih _ hm hv hn

theorem nodup_under {step : Step} {ls : List (Place × String)} (h : (ls.map (·.1)).Nodup) :
    ((ls.map fun l => (step :: l.1, l.2)).map (·.1)).Nodup := by
  have hmap : (ls.map fun l => (step :: l.1, l.2)).map (·.1) =
      (ls.map (·.1)).map (step :: ·) := by
    simp only [List.map_map, Function.comp_def]
  rw [hmap]
  exact List.Pairwise.map _ (fun _ _ hne he => hne (List.cons.inj he).2) h

theorem nodup_leavesOfItems {items : List Value}
    (h : ∀ v ∈ items, (v.leaves.map (·.1)).Nodup) (i : Nat) :
    ((leavesOfItems i items).map (·.1)).Nodup := by
  induction items generalizing i with
  | nil => simp [leavesOfItems]
  | cons v rest ih =>
    have hv := h v (List.mem_cons_self ..)
    have hrest := ih (fun w hw => h w (List.mem_cons_of_mem _ hw)) (i + 1)
    rw [leavesOfItems, List.map_append, List.nodup_append]
    refine ⟨nodup_under hv, hrest, ?_⟩
    intro p hp q hq
    obtain ⟨l, hl, rfl⟩ := List.mem_map.mp hp
    obtain ⟨m, hm, rfl⟩ := List.mem_map.mp hq
    obtain ⟨l', -, rfl⟩ := List.mem_map.mp hl
    obtain ⟨k, w, -, q, hq, -⟩ := mem_leavesOfItems.mp hm
    rw [hq]
    intro he
    have hi := (List.cons.inj he).1
    injection hi with hi
    omega

theorem nodup_leavesOfFields {fields : Fields} (hd : (fields.map (·.1)).Nodup)
    (h : ∀ e ∈ fields, (e.2.leaves.map (·.1)).Nodup) :
    ((leavesOfFields fields).map (·.1)).Nodup := by
  induction fields with
  | nil => simp [leavesOfFields]
  | cons e rest ih =>
    obtain ⟨k, v⟩ := e
    have hv := h _ (List.mem_cons_self ..)
    rw [List.map_cons, List.nodup_cons] at hd
    have hrest := ih hd.2 fun w hw => h w (List.mem_cons_of_mem _ hw)
    cases k with
    | text n =>
      rw [leavesOfFields, List.map_append, List.nodup_append]
      refine ⟨nodup_under hv, hrest, ?_⟩
      intro p hp q hq
      obtain ⟨l, hl, rfl⟩ := List.mem_map.mp hp
      obtain ⟨m, hm, rfl⟩ := List.mem_map.mp hq
      obtain ⟨l', -, rfl⟩ := List.mem_map.mp hl
      obtain ⟨n', w, hw, q, hq, -⟩ := mem_leavesOfFields.mp hm
      rw [hq]
      intro he
      have hi := (List.cons.inj he).1
      injection hi with hi
      subst hi
      exact hd.1 (List.mem_map_of_mem (f := (·.1)) hw)
    | _ =>
      rw [leavesOfFields]
      · exact hrest
      · nofun

theorem nodup_leaves {r : Value} (hr : Tree r) : (r.leaves.map (·.1)).Nodup := by
  induction hr with
  | text s => simp [leaves_text]
  | list _ _ _ ih =>
    rw [leaves]
    exact nodup_leavesOfItems ih 0
  | record _ hd _ _ ih =>
    rw [leaves]
    exact nodup_leavesOfFields hd ih

end Value
end Microdata
