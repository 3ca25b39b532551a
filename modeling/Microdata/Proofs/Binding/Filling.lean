import Mathlib.Data.List.TakeWhile
import Microdata.Binding.Placeholder
set_option autoImplicit false

/-!
Placeholders are filled in one pass. Behind its dollar sign, a placeholder has a name in braces and
nothing else, so a text can be cut in front of every other character (`Foreign.fill_append`). Main
statement: `substitute_once`, a placeholder gives the text of its value as it is, whatever stands
around it, and a text without placeholders stays as it is.
-/

namespace Microdata.Placeholder

variable {cs rest name after : List Char}

theorem isWord_marks : Text.isWord '$' = false ∧ Text.isWord '\x7b' = false ∧
    Text.isWord '\x7d' = false := by
  decide

theorem read?_eq_some_iff : read? cs = some (name, after) ↔
    name ≠ [] ∧ (∀ c ∈ name, Text.isWord c = true) ∧ cs = '\x7b' :: name ++ '\x7d' :: after := by
  constructor
  · intro h
    unfold read? at h
    split at h
    · rename_i tail
      dsimp only at h
      split at h
      · rename_i heq
        split at h
        · cases h
        · rename_i hne
          cases h
          refine ⟨by simpa using hne, fun c hc => List.mem_takeWhile_imp hc, ?_⟩
          rw [List.cons_append, ← heq, List.takeWhile_append_dropWhile]
      · cases h
    · cases h
  · rintro ⟨hne, hword, rfl⟩
    have hclose : ∀ c ∈ ('\x7d' :: after).head?, Text.isWord c = false := by
      rintro c ⟨⟩
      exact isWord_marks.2.2
    obtain ⟨htake, hdrop⟩ := Text.takeWhile_append hword hclose
    rw [List.cons_append, read?]
    simp only [htake, hdrop]
    rw [if_neg (by simpa using hne)]

theorem read?_append (h : read? cs = some (name, after)) (t : List Char) :
    read? (cs ++ t) = some (name, after ++ t) := by
  obtain ⟨hne, hword, rfl⟩ := read?_eq_some_iff.mp h
  exact read?_eq_some_iff.mpr ⟨hne, hword, by simp⟩

/-- Characters that no placeholder has behind its dollar sign. -/
structure Foreign (c : Char) : Prop where
  unnamed : Text.isWord c = false
  not_open : c ≠ '\x7b'
  not_close : c ≠ '\x7d'

theorem foreign_dollar : Foreign '$' := ⟨isWord_marks.1, by decide, by decide⟩

theorem Foreign.not_mem_braces {c : Char} (hc : Foreign c)
    (h : ∀ d ∈ name, Text.isWord d = true) : c ∉ '\x7b' :: name ++ ['\x7d'] := by
  have hname : c ∉ name := fun hmem => by simpa [hc.unnamed] using h _ hmem
  simp [hname, hc.not_open, hc.not_close]

theorem Foreign.read?_append {c : Char} (hc : Foreign c) (h : read? cs = none) (t : List Char) :
    read? (cs ++ c :: t) = none := by
  rw [Option.eq_none_iff_forall_ne_some]
  rintro ⟨name, after⟩ hread
  obtain ⟨hne, hword, heq⟩ := read?_eq_some_iff.mp hread
  have hcut : cs ++ c :: t = ('\x7b' :: name ++ ['\x7d']) ++ after := by simp [heq]
  have hnone (inner : List Char) : cs ≠ ('\x7b' :: name ++ ['\x7d']) ++ inner := by
    rintro rfl
    have hbraces : read? ('\x7b' :: name ++ ['\x7d'] ++ inner) = some (name, inner) :=
      read?_eq_some_iff.mpr ⟨hne, hword, by simp⟩
    cases h.symm.trans hbraces
  obtain ⟨inner, hbraces, hafter⟩ | ⟨inner, hcs, -⟩ := List.append_eq_append_iff.mp hcut
  · -- the braces would end in front of the character, or hold it
    cases inner with
    | nil => exact hnone [] (by simpa using hbraces.symm)
    | cons d inner =>
      obtain ⟨rfl, -⟩ := List.cons.inj hafter
      exact hc.not_mem_braces hword (by rw [hbraces]; simp)
  · exact hnone inner hcs

theorem fill_other {c : Char} (h : c ≠ '$') (record : Fields) :
    fill record (c :: rest) = fill record rest >>= fun cs => .ok (c :: cs) := by
  rw [fill, if_neg (by simpa using h)]

theorem Foreign.fill_append {d : Char} (hd : Foreign d) (record : Fields) (a t : List Char) :
    fill record (a ++ d :: t) =
      fill record a >>= fun s => fill record (d :: t) >>= fun x => .ok (s ++ x) := by
  fun_induction fill record a with
  | case1 =>
    rw [List.nil_append]
    cases fill record (d :: t) <;> rfl
  | case2 c rest hc name after hread ih =>
    obtain rfl := beq_iff_eq.mp hc
    rw [List.cons_append, fill_some (Placeholder.read?_append hread _), ih]
    cases filling record name with
    | error f => rfl
    | ok v =>
      cases fill record after with
      | error f => rfl
      | ok s =>
        cases fill record (d :: t) with
        | error f => rfl
        | ok x => exact congrArg Except.ok (List.append_assoc ..).symm
  | case3 c rest hc hread ih =>
    obtain rfl := beq_iff_eq.mp hc
    rw [List.cons_append, fill_none (hd.read?_append hread t), ih]
    cases fill record rest with
    | error f => rfl
    | ok s => cases fill record (d :: t) <;> rfl
  | case4 c rest hc ih =>
    rw [List.cons_append, fill_other (by simpa using hc), ih]
    cases fill record rest with
    | error f => rfl
    | ok s => cases fill record (d :: t) <;> rfl

theorem fill_written (hne : name ≠ []) (hword : ∀ c ∈ name, Text.isWord c = true)
    (record : Fields) (b : List Char) :
    fill record (written name ++ b) =
      filling record name >>= fun v => fill record b >>= fun cs => .ok (v ++ cs) := by
  have hread : read? ('\x7b' :: name ++ ['\x7d'] ++ b) = some (name, b) :=
    read?_eq_some_iff.mpr ⟨hne, hword, by simp⟩
  exact fill_some hread record

theorem fill_around (hne : name ≠ []) (hword : ∀ c ∈ name, Text.isWord c = true)
    (record : Fields) (a b : List Char) :
    fill record (a ++ written name ++ b) = (do
      let s ← fill record a
      let v ← filling record name
      let t ← fill record b
      .ok (s ++ v ++ t)) := by
  have hcut : a ++ written name ++ b = a ++ '$' :: ('\x7b' :: name ++ ['\x7d'] ++ b) := by
    simp [written]
  have hwritten := fill_written hne hword record b
  change fill record ('$' :: ('\x7b' :: name ++ ['\x7d'] ++ b)) = _ at hwritten
  rw [hcut, foreign_dollar.fill_append, hwritten]
  cases fill record a with
  | error f => rfl
  | ok s =>
    cases filling record name with
    | error f => rfl
    | ok v =>
      cases fill record b with
      | error f => rfl
      | ok t => exact congrArg Except.ok (List.append_assoc ..).symm

def Holds (cs : List Char) : Prop :=
  ∃ a name b, name ≠ [] ∧ (∀ c ∈ name, Text.isWord c = true) ∧ cs = a ++ written name ++ b

theorem Holds.cons (h : Holds cs) (c : Char) : Holds (c :: cs) := by
  obtain ⟨a, name, b, hne, hword, rfl⟩ := h
  exact ⟨c :: a, name, b, hne, hword, rfl⟩

theorem fill_of_not_holds (record : Fields) (h : ¬ Holds cs) : fill record cs = .ok cs := by
  induction cs with
  | nil => rw [fill]
  | cons c rest ih =>
    have hrest := ih fun hrest => h (hrest.cons c)
    by_cases hc : c = '$'
    · subst hc
      have hread : read? rest = none := by
        rw [Option.eq_none_iff_forall_ne_some]
        rintro ⟨name, after⟩ hread
        obtain ⟨hne, hword, rfl⟩ := read?_eq_some_iff.mp hread
        exact h ⟨[], name, after, hne, hword, by simp [written]⟩
      rw [fill_none hread, hrest]
      rfl
    · rw [fill_other hc, hrest]
      rfl

def IsName (k : String) : Prop := k ≠ "" ∧ ∀ c ∈ k.toList, Text.isWord c = true

def mark (k : String) : String := "$\x7b" ++ k ++ "\x7d"

variable {r : Fields} {k : String} {v : Value}

theorem toList_mark (k : String) : (mark k).toList = written k.toList := by
  simp [mark, written]

theorem filling_of_value (h : r.get? k = some v) (hv : v ≠ .none) (hr : v.isRecord = false) :
    (filling r k.toList).map String.ofList = v.markup := by
  have hmarkup : (v.markup.map String.toList).map String.ofList = v.markup := by
    cases v.markup with
    | error f => rfl
    | ok x => exact congrArg Except.ok String.ofList_toList
  rw [filling, String.ofList_toList, h]
  cases v with
  | none => exact absurd rfl hv
  | record fields => cases hr
  | _ => exact hmarkup

theorem filling_of_missing (h : ∀ v, r.get? k = some v → v = .none ∨ v.isRecord = true) :
    (filling r k.toList).map String.ofList = .ok (mark k) := by
  have hwritten : String.ofList (written k.toList) = mark k := by
    rw [← toList_mark, String.ofList_toList]
  rw [filling, String.ofList_toList, ← hwritten]
  cases hv : r.get? k with
  | none => rfl
  | some v =>
    obtain rfl | hr := h v hv
    · rfl
    · cases v with
      | record fields => rfl
      | _ => cases hr

theorem substitute_around (hk : IsName k) (r : Fields) (a b : String) :
    substitute (.record r) (a ++ mark k ++ b) = (do
      let s ← substitute (.record r) a
      let x ← (filling r k.toList).map String.ofList
      let t ← substitute (.record r) b
      .ok (s ++ x ++ t)) := by
  have hne : k.toList ≠ [] := by simpa using hk.1
  simp only [substitute, String.toList_append, toList_mark, fill_around hne hk.2]
  cases fill r a.toList with
  | error f => rfl
  | ok s =>
    cases filling r k.toList with
    | error f => rfl
    | ok x =>
      cases fill r b.toList with
      | error f => rfl
      | ok t =>
        have hparts : String.ofList (s ++ x ++ t) =
            String.ofList s ++ String.ofList x ++ String.ofList t := by
          rw [String.ofList_append, String.ofList_append]
        exact congrArg Except.ok hparts

/-- Filling goes through a text once, from left to right. A placeholder gives the text of its value
as it is, or stays if there is no value, or a record; what stands on either side is filled as if it
stood alone. A text in which there is no placeholder stays as it is. -/
theorem substitute_once (r : Fields) :
    (∀ a b k, IsName k →
      (∀ v, r.get? k = some v → v ≠ .none → v.isRecord = false →
        substitute (.record r) (a ++ mark k ++ b) = (do
          let s ← substitute (.record r) a
          let x ← v.markup
          let t ← substitute (.record r) b
          .ok (s ++ x ++ t))) ∧
      ((∀ v, r.get? k = some v → v = .none ∨ v.isRecord = true) →
        substitute (.record r) (a ++ mark k ++ b) = (do
          let s ← substitute (.record r) a
          let t ← substitute (.record r) b
          .ok (s ++ mark k ++ t)))) ∧
      ∀ s, (∀ a b k, IsName k → s ≠ a ++ mark k ++ b) → substitute (.record r) s = .ok s := by
  refine ⟨fun a b k hk => ⟨fun v hget hv hr => ?_, fun hmissing => ?_⟩, fun s hs => ?_⟩
  · rw [substitute_around hk, filling_of_value hget hv hr]
  · rw [substitute_around hk, filling_of_missing hmissing]
    rfl
  · have hnot : ¬ Holds s.toList := by
      rintro ⟨a, name, b, hne, hword, heq⟩
      refine hs (String.ofList a) (String.ofList b) (String.ofList name)
        ⟨by simpa using hne, by simpa using hword⟩ ?_
      rw [← String.toList_inj, heq]
      simp [toList_mark]
    rw [substitute, fill_of_not_holds r hnot]
    exact congrArg Except.ok String.ofList_toList

/-- A record with a value that looks like a placeholder. -/
def deceptive : Fields := [(.text "name", .text (mark "id")), (.text "id", .text "7")]

theorem substitute_once_deceptive :
    IsName "name" ∧ IsName "id" ∧
      substitute (.record deceptive) ("$\x7b" ++ mark "name" ++ ("\x7d" ++ mark "id" ++ "")) =
        .ok ("$\x7b" ++ mark "id" ++ ("\x7d" ++ "7" ++ "")) := by
  have hname : IsName "name" := ⟨by decide, List.all_eq_true.mp (by decide +kernel)⟩
  have hid : IsName "id" := ⟨by decide, List.all_eq_true.mp (by decide +kernel)⟩
  obtain ⟨hcut, hkeep⟩ := substitute_once deceptive
  have hshort (s : String) (h : s.length < 4) : substitute (.record deceptive) s = .ok s := by
    refine hkeep s fun a b k hk he => ?_
    have hlen : 0 < k.length := by simpa [Nat.pos_iff_ne_zero] using hk.1
    simp only [he, mark, String.length_append] at h
    have : "$\x7b".length = 2 ∧ "\x7d".length = 1 := by decide
    omega
  refine ⟨hname, hid, ?_⟩
  rw [(hcut "$\x7b" _ "name" hname).1 (.text (mark "id")) rfl nofun rfl,
    (hcut "\x7d" "" "id" hid).1 (.text "7") rfl nofun rfl, hshort "$\x7b" (by decide),
    hshort "\x7d" (by decide), hshort "" (by decide)]
  rfl

end Microdata.Placeholder
