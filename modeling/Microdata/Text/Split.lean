set_option autoImplicit false

namespace Microdata.Text

def cut? (c : Char) : List Char → Option (List Char × List Char)
  | [] => none
  | d :: rest =>
    if d == c then some ([], rest) else (cut? c rest).map fun (before, after) => (d :: before, after)

theorem append_of_cut? {c : Char} {cs before after : List Char}
    (h : cut? c cs = some (before, after)) : cs = before ++ c :: after := by
  induction cs generalizing before with
  | nil => cases h
  | cons d rest ih =>
    rw [cut?] at h
    split at h
    · rename_i hd
      cases h
      rw [eq_of_beq hd, List.nil_append]
    · obtain ⟨⟨inner, tail⟩, hrest, he⟩ := Option.map_eq_some_iff.mp h
      cases he
      rw [ih hrest, List.cons_append]

def cutLast? (c : Char) (cs : List Char) : Option (List Char × List Char) :=
  (cut? c cs.reverse).map fun (after, before) => (before.reverse, after.reverse)

/-- The pieces of a text between all occurrences of a character; `piece` holds the one begun. -/
def pieces (c : Char) (piece : List Char) : List Char → List (List Char)
  | [] => [piece]
  | d :: rest => if d == c then piece :: pieces c [] rest else pieces c (piece ++ [d]) rest

def split (c : Char) (cs : List Char) : List (List Char) := pieces c [] cs

def join (c : Char) : List (List Char) → List Char
  | [] => []
  | [piece] => piece
  | piece :: rest => piece ++ c :: join c rest

def cutPart? (part : List Char) : List Char → Option (List Char × List Char)
  | [] => if part.isEmpty then some ([], []) else none
  | c :: rest =>
    if part.isPrefixOf (c :: rest) then some ([], (c :: rest).drop part.length)
    else (cutPart? part rest).map fun (before, after) => (c :: before, after)

def cutLastPart? (part cs : List Char) : Option (List Char × List Char) :=
  (cutPart? part.reverse cs.reverse).map fun (after, before) => (before.reverse, after.reverse)

def includes (part : List Char) : List Char → Bool
  | [] => part.isEmpty
  | c :: rest => part.isPrefixOf (c :: rest) || includes part rest

theorem includes_iff {part cs : List Char} : includes part cs = true ↔ part <:+: cs := by
  induction cs with
  | nil => simp [includes]
  | cons c cs ih => simp [includes, ih, List.infix_cons_iff]

theorem includes_append_cons {a b c : Char} (h : c ≠ b) (cs t : List Char) :
    includes [a, b] (cs ++ c :: t) = (includes [a, b] cs || includes [a, b] (c :: t)) := by
  induction cs with
  | nil => rfl
  | cons d rest ih =>
    cases rest with
    | nil => simp [includes, List.isPrefixOf, h.symm]
    | cons next rest =>
      rw [List.cons_append, includes, ih, ← Bool.or_assoc]
      rfl

theorem takeWhile_append {p : Char → Bool} {run rest : List Char} (h : ∀ c ∈ run, p c = true)
    (hr : ∀ c ∈ rest.head?, p c = false) :
    (run ++ rest).takeWhile p = run ∧ (run ++ rest).dropWhile p = rest := by
  rw [List.takeWhile_append_of_pos h, List.dropWhile_append_of_pos h]
  cases rest with
  | nil => simp
  | cons c rest =>
    have hc := hr c rfl
    simp [hc]

end Microdata.Text
