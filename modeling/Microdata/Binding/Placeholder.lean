import Microdata.Text.Word
import Microdata.Value.Scalar
set_option autoImplicit false

namespace Microdata.Placeholder

def read? : List Char → Option (List Char × List Char)
  | '\x7b' :: rest =>
    let name := rest.takeWhile Text.isWord
    match rest.dropWhile Text.isWord with
    | '\x7d' :: rest => if name.isEmpty then none else some (name, rest)
    | _ => none
  | _ => none

theorem length_lt_of_read? {cs name rest : List Char} (h : read? cs = some (name, rest)) :
    rest.length < cs.length := by
  unfold read? at h
  split at h
  · rename_i tail
    have hle : (tail.dropWhile Text.isWord).length ≤ tail.length :=
      (List.dropWhile_sublist _).length_le
    simp only at h
    split at h
    · rename_i heq
      split at h
      · cases h
      · simp only [Option.some.injEq, Prod.mk.injEq] at h
        obtain ⟨-, rfl⟩ := h
        rw [heq] at hle
        simp only [List.length_cons] at hle ⊢
        omega
    · cases h
  · cases h

def written (name : List Char) : List Char := '$' :: '\x7b' :: name ++ ['\x7d']

/-- What a placeholder is filled with: the value under its name, or the placeholder itself if there
is none, or a record. -/
def filling (record : Fields) (name : List Char) : Except Fault (List Char) :=
  match record.get? (String.ofList name) with
  | none | some .none | some (.record _) => .ok (written name)
  | some v => v.markup.map String.toList

def fill (record : Fields) : List Char → Except Fault (List Char)
  | [] => .ok []
  | c :: rest =>
    if c == '$' then
      match _h : read? rest with
      | some (name, after) => do
        let v ← filling record name
        .ok (v ++ (← fill record after))
      | none => do .ok (c :: (← fill record rest))
    else do .ok (c :: (← fill record rest))
termination_by cs => cs.length
decreasing_by
  · have := length_lt_of_read? _h
    simp only [List.length_cons]
    omega
  · simp
  · simp

section

variable {rest name after : List Char}

theorem fill_some (h : read? rest = some (name, after)) (record : Fields) :
    fill record ('$' :: rest) =
      filling record name >>= fun v => fill record after >>= fun cs => .ok (v ++ cs) := by
  rw [fill, if_pos (beq_self_eq_true _)]
  split <;> rename_i h'
  · cases h.symm.trans h'
    rfl
  · cases h.symm.trans h'

theorem fill_none (h : read? rest = none) (record : Fields) :
    fill record ('$' :: rest) = fill record rest >>= fun cs => .ok ('$' :: cs) := by
  rw [fill, if_pos (beq_self_eq_true _)]
  split <;> rename_i h'
  · cases h.symm.trans h'
  · rfl

end

/-- A text with its placeholders filled from a record. Where there is no record, it stays. -/
def substitute (record : Value) (template : String) : Except Fault String :=
  match record with
  | .record fields => (fill fields template.toList).map String.ofList
  | _ => .ok template

end Microdata.Placeholder
