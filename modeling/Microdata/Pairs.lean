set_option autoImplicit false

namespace Microdata

def lookup? {α : Type} (name : String) : List (String × α) → Option α
  | [] => none
  | (n, v) :: rest => if n = name then some v else lookup? name rest

/-- The pairs with a new value for a name, in its old place or else at the end. -/
def assign (name value : String) : List (String × String) → List (String × String)
  | [] => [(name, value)]
  | (n, v) :: rest => if n = name then (n, value) :: rest else (n, v) :: assign name value rest

def erase (name : String) (pairs : List (String × String)) : List (String × String) :=
  pairs.filter fun p => p.1 ≠ name

theorem mem_of_lookup? {α : Type} {name : String} {pairs : List (String × α)} {v : α}
    (h : lookup? name pairs = some v) : (name, v) ∈ pairs := by
  induction pairs with
  | nil => cases h
  | cons p rest ih =>
    rw [lookup?] at h
    split at h
    · rename_i hname
      cases hname
      cases h
      exact List.mem_cons_self ..
    · exact List.mem_cons_of_mem _ (ih h)

theorem lookup?_assign (name value x : String) (pairs : List (String × String)) :
    lookup? x (assign name value pairs) = if name = x then some value else lookup? x pairs := by
  induction pairs with
  | nil => rfl
  | cons p rest ih =>
    obtain ⟨n, v⟩ := p
    by_cases h : n = name
    · by_cases hx : n = x <;> simp_all [assign, lookup?]
    · by_cases hx : n = x
      · subst hx
        simp [assign, lookup?, h, Ne.symm h]
      · simp [assign, lookup?, h, hx, ih]

theorem lookup?_erase (name x : String) (pairs : List (String × String)) :
    lookup? x (erase name pairs) = if name = x then none else lookup? x pairs := by
  induction pairs with
  | nil => simp [erase, lookup?]
  | cons p rest ih =>
    obtain ⟨n, v⟩ := p
    by_cases h : n = name
    · by_cases hx : name = x <;> simp_all [erase, lookup?]
    · by_cases hx : n = x
      · have hne : name ≠ x := fun e => h (hx.trans e.symm)
        simp_all [erase, lookup?]
      · simp_all [erase, lookup?]

theorem names_assign (name value : String) (pairs : List (String × String)) :
    (assign name value pairs).map (·.1) =
      if name ∈ pairs.map (·.1) then pairs.map (·.1) else pairs.map (·.1) ++ [name] := by
  induction pairs with
  | nil => rfl
  | cons p rest ih =>
    obtain ⟨n, v⟩ := p
    by_cases h : n = name
    · simp [assign, h]
    · have hne : name ≠ n := fun e => h e.symm
      by_cases hm : name ∈ rest.map (·.1) <;> simp_all [assign]

end Microdata
