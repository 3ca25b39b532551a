import Microdata.Markup.CharRef
import Microdata.Markup.Writer
import Microdata.Text.Split
set_option autoImplicit false

namespace Microdata.Markup

/-- Ways to write a character: as it is, or as a reference to it. -/
inductive Stands (c : Char) : List Char → Prop
  | itself (h : c ≠ '&') : Stands c [c]
  | reference {name : List Char} (hne : name ≠ []) (hlength : name.length ≤ 32)
      (hletters : ∀ d ∈ name, d.isAlpha = true) (h : named? (String.ofList name) = some [c]) :
      Stands c ('&' :: (name ++ [';']))

theorem isNameChar_of_isAlpha {c : Char} (h : c.isAlpha = true) : isNameChar c = true := by
  have hne (d : Char) (hd : d.isAlpha = false) : (c == d) = false := by
    rw [beq_eq_false_iff_ne]
    rintro rfl
    rw [h] at hd
    cases hd
  simp [isNameChar, hne]

section

variable {c : Char} {name : List Char} (rest : List Char) (hne : name ≠ [])
  (hletters : ∀ d ∈ name, d.isAlpha = true)
include hne hletters

theorem head?_ne_number : (name ++ rest).head? ≠ some '#' := by
  cases name with
  | nil => exact absurd rfl hne
  | cons d ds =>
    have hd := hletters d (List.mem_cons_self ..)
    intro he
    obtain rfl : d = '#' := by simpa using he
    contradiction

theorem reference?_named (hlength : name.length ≤ 32)
    (h : named? (String.ofList name) = some [c]) :
    reference? (name ++ ';' :: rest) = some ([c], name.length + 1) := by
  have hhead := head?_ne_number (';' :: rest) hne hletters
  have hstop : ∀ d ∈ (';' :: rest).head?, isNameChar d = false := by simp [isNameChar]
  have hword :=
    (Text.takeWhile_append (fun d hd => isNameChar_of_isAlpha (hletters d hd)) hstop).1
  have hwritten : written? (name ++ [';']) = some [c] := by
    simp [written?, h]
  have htake : (name ++ ';' :: rest).take (name.length + 1) = name ++ [';'] := by
    simp [List.take_append, List.take_of_length_le]
  unfold reference?
  split
  · rename_i heq
    rw [heq] at hhead
    exact absurd rfl hhead
  · have hsemicolon : semicolon ((name ++ ';' :: rest).drop name.length) = 1 := by simp [semicolon]
    simp only [hword, List.take_of_length_le hlength, List.isEmpty_iff, hne, if_false, hsemicolon,
      htake, hwritten]

theorem overlong?_reference : overlong? ('&' :: (name ++ ';' :: rest)) = overlong? rest := by
  have hwidth : decimalWidth (name ++ ';' :: rest) = 0 := by
    have hhead := head?_ne_number (';' :: rest) hne hletters
    unfold decimalWidth
    split
    · rename_i heq
      rw [heq] at hhead
      exact absurd rfl hhead
    · rfl
  have hskip : overlong? (name ++ ';' :: rest) = overlong? rest := by
    clear hne hwidth
    induction name with
    | nil => rfl
    | cons d ds ih =>
      have hd : (d == '&') = false := by
        rw [beq_eq_false_iff_ne]
        rintro rfl
        exact absurd (hletters '&' (List.mem_cons_self ..)) (by decide)
      rw [List.cons_append, overlong?, hd]
      exact ih fun e he => hletters e (List.mem_cons_of_mem _ he)
  rw [overlong?, hwidth]
  exact hskip

end

variable {c : Char} {written : List Char}

theorem Stands.decode (h : Stands c written) (rest : List Char) :
    decode (written ++ rest) = c :: Markup.decode rest := by
  cases h with
  | itself hc =>
    rw [List.singleton_append, Markup.decode, if_neg (by simpa using hc)]
  | @reference name hne hlength hletters hname =>
    have href := reference?_named rest hne hletters hlength hname
    have hdrop : (name ++ ';' :: rest).drop (name.length + 1) = rest := by simp [List.drop_append]
    rw [List.cons_append, List.append_assoc, List.singleton_append, Markup.decode,
      if_pos (by rfl)]
    split
    · rename_i chars n heq
      cases href.symm.trans heq
      rw [hdrop]
      rfl
    · rename_i heq
      cases href.symm.trans heq

theorem Stands.overlong? (h : Stands c written) (rest : List Char) :
    overlong? (written ++ rest) = Markup.overlong? rest := by
  cases h with
  | itself hc =>
    have hne : (c == '&') = false := by simpa using hc
    rw [List.singleton_append, Markup.overlong?, hne]
    rfl
  | reference hne _ hletters _ =>
    rw [List.cons_append, List.append_assoc, List.singleton_append,
      overlong?_reference rest hne hletters]

theorem unescape_flatMap {f : Char → List Char} (hf : ∀ c, Stands c (f c)) (cs : List Char) :
    unescape (cs.flatMap f) = .ok (String.ofList cs) := by
  have hshort : overlong? (cs.flatMap f) = none := by
    induction cs with
    | nil => rfl
    | cons c cs ih => rw [List.flatMap_cons, (hf c).overlong?, ih]
  have hdecode : decode (cs.flatMap f) = cs := by
    clear hshort
    induction cs with
    | nil => rw [List.flatMap_nil, decode]
    | cons c cs ih => rw [List.flatMap_cons, (hf c).decode, ih]
  rw [unescape, hshort, hdecode]

theorem stands_reference (name : String) (h : named? name = some [c])
    (hname : name.toList ≠ [] ∧ name.toList.length ≤ 32 ∧ name.toList.all Char.isAlpha = true) :
    Stands c ('&' :: (name.toList ++ [';'])) := by
  obtain ⟨hne, hlength, hletters⟩ := hname
  exact .reference hne hlength (List.all_eq_true.mp hletters) (by rwa [String.ofList_toList])

theorem stands_escapeTextChar (c : Char) : Stands c (escapeTextChar c) := by
  unfold escapeTextChar
  split
  · rename_i h
    obtain rfl := beq_iff_eq.mp h
    exact stands_reference "amp" rfl (by decide)
  · split
    · rename_i h
      obtain rfl := beq_iff_eq.mp h
      exact stands_reference "lt" rfl (by decide)
    · split
      · rename_i h
        obtain rfl := beq_iff_eq.mp h
        exact stands_reference "gt" rfl (by decide)
      · rename_i h _ _
        exact .itself fun he => h (beq_iff_eq.mpr he)

theorem stands_escapeValueChar (c : Char) : Stands c (escapeValueChar c) := by
  unfold escapeValueChar
  split
  · rename_i h
    obtain rfl := beq_iff_eq.mp h
    exact stands_reference "amp" rfl (by decide)
  · split
    · rename_i h
      obtain rfl := beq_iff_eq.mp h
      exact stands_reference "gt" rfl (by decide)
    · split
      · rename_i h
        obtain rfl := beq_iff_eq.mp h
        exact stands_reference "quot" rfl (by decide)
      · rename_i h _ _
        exact .itself fun he => h (beq_iff_eq.mpr he)

theorem unescape_escapeText (s : String) : unescape (s.toList.flatMap escapeTextChar) = .ok s := by
  rw [unescape_flatMap stands_escapeTextChar, String.ofList_toList]

theorem unescape_escapeValue (s : String) :
    unescape (s.toList.flatMap escapeValueChar) = .ok s := by
  rw [unescape_flatMap stands_escapeValueChar, String.ofList_toList]

theorem not_mem_escapeTextChar (c : Char) : '<' ∉ escapeTextChar c := by
  unfold escapeTextChar
  split
  · decide
  · split
    · decide
    · split
      · decide
      · rename_i h _
        intro hm
        obtain rfl := List.mem_singleton.mp hm
        exact h rfl

theorem not_mem_escapeValueChar (c : Char) : '"' ∉ escapeValueChar c := by
  unfold escapeValueChar
  split
  · decide
  · split
    · decide
    · split
      · decide
      · rename_i h
        intro hm
        obtain rfl := List.mem_singleton.mp hm
        exact h rfl

end Microdata.Markup
