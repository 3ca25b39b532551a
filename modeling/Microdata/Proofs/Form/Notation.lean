import Microdata.Form.Path
import Microdata.Proofs.Number.Integral
set_option autoImplicit false

namespace Microdata

structure IsPart (n : String) : Prop where
  nonempty : n ≠ ""
  unseparated : ∀ c ∈ n.toList, Path.isSeparator c = false

def Step.part : Step → String
  | name n => n
  | index i => String.ofList (Nat.toDigits 10 i)

namespace Place

/-- What can stand for a place behind the name that it begins with. -/
inductive Continues : Place → List Char → Prop
  | nil : Continues [] []
  | name (n : String) {p : Place} {cs : List Char} : Continues p cs →
      Continues (.name n :: p) ('.' :: (n.toList ++ cs))
  | dotted (i : Nat) {p : Place} {cs : List Char} : Continues p cs →
      Continues (.index i :: p) ('.' :: (Nat.toDigits 10 i ++ cs))
  | bracketed (i : Nat) {p : Place} {cs : List Char} : Continues p cs →
      Continues (.index i :: p) ('[' :: (Nat.toDigits 10 i ++ ']' :: cs))

/-- The paths of a place. -/
inductive Spells : Place → String → Prop
  | name (n : String) {p : Place} {path : String} {cs : List Char} : Continues p cs →
      path.toList = n.toList ++ cs → Spells (.name n :: p) path

end Place

namespace Text

theorem decimalValue?_of_isDigit {c : Char} (h : c.isDigit = true) :
    decimalValue? c = some (c.toNat - 48) := by
  have hrange := Numeral.toNat_of_isDigit h
  have hlow : c.val < 128 := by
    change c.toNat < 128
    omega
  rw [decimalValue?, if_pos hlow, if_pos h]

theorem runs_append {gap : Char → Bool} (run : List Char) {cs : List Char}
    (h : ∀ c ∈ cs, gap c = false) (rest : List Char) :
    runs gap run (cs ++ rest) = runs gap (run ++ cs) rest := by
  induction cs generalizing run with
  | nil => simp
  | cons c cs ih =>
    have hc := h c (by simp)
    have hcs := ih (run ++ [c]) fun d hd => h d (by simp [hd])
    simpa [runs, hc] using hcs

theorem runs_gap {gap : Char → Bool} (run : List Char) {c : Char} (h : gap c = true)
    (rest : List Char) :
    runs gap run (c :: rest) = (if run.isEmpty then [] else [run]) ++ runs gap [] rest := by
  cases run <;> simp [runs, h]

end Text

namespace Path

theorem isSeparator_of_isDigit {c : Char} (h : c.isDigit = true) : isSeparator c = false := by
  have hrange := Numeral.toNat_of_isDigit h
  have hne (d : Char) (hd : d.toNat < 48 ∨ 57 < d.toNat) : (c == d) = false := by
    rw [beq_eq_false_iff_ne]
    rintro rfl
    omega
  simp [isSeparator, hne]

theorem hasMark_cons {c : Char} {cs : List Char} (h : c = '[' → cs.head? ≠ some ']') :
    hasMark (c :: cs) = hasMark cs := by
  rw [hasMark]
  intro rest hc hcs
  subst hcs
  exact h hc rfl

theorem dropMark_of_not_hasMark {cs : List Char} (h : hasMark cs = false) : dropMark cs = cs := by
  induction cs using dropMark.induct with
  | case1 => rfl
  | case2 rest => cases h
  | case3 c rest hne ih =>
    rw [hasMark] at h
    · rw [dropMark, ih h]
      exact hne
    · exact hne

theorem hasMark_append {xs : List Char} (h : '[' ∉ xs) (cs : List Char) :
    hasMark (xs ++ cs) = hasMark cs := by
  induction xs with
  | nil => rfl
  | cons c xs ih =>
    have hc : '[' ≠ c := fun he => h (he ▸ List.mem_cons_self ..)
    have hxs : '[' ∉ xs := fun hm => h (List.mem_cons_of_mem _ hm)
    rw [List.cons_append, hasMark_cons fun he => absurd he.symm hc, ih hxs]

end Path

namespace Place

open Microdata.Path

theorem not_mem_of_isPart {n : String} (h : IsPart n) : '[' ∉ n.toList := by
  intro hm
  have := h.unseparated _ hm
  contradiction

theorem Continues.hasMark {p : Place} {cs : List Char} (h : Continues p cs)
    (hp : ∀ n, .name n ∈ p → IsPart n) : Path.hasMark cs = false := by
  induction h with
  | nil => rfl
  | @name n p cs _ ih =>
    have hrest := ih fun m hm => hp m (List.mem_cons_of_mem _ hm)
    have hn := not_mem_of_isPart (hp n (List.mem_cons_self ..))
    rw [hasMark_cons fun h => absurd h (by decide), hasMark_append hn, hrest]
  | @dotted i p cs _ ih =>
    have hrest := ih fun m hm => hp m (List.mem_cons_of_mem _ hm)
    have hdigits : '[' ∉ Nat.toDigits 10 i := Numeral.not_mem_toDigits (by decide)
    rw [hasMark_cons fun h => absurd h (by decide), hasMark_append hdigits, hrest]
  | @bracketed i p cs _ ih =>
    have hrest := ih fun m hm => hp m (List.mem_cons_of_mem _ hm)
    -- a position has a digit, so that its brackets are no mark of a list
    have hhead : (Nat.toDigits 10 i ++ ']' :: cs).head? ≠ some ']' := by
      cases hd : Nat.toDigits 10 i with
      | nil => exact absurd hd Nat.toDigits_ne_nil
      | cons d ds =>
        have hdigit : d.isDigit = true :=
          Numeral.isDigit_of_mem_toDigits (hd ▸ List.mem_cons_self ..)
        intro he
        obtain rfl : d = ']' := by simpa using he
        contradiction
    rw [hasMark_cons fun _ => hhead, hasMark_append (Numeral.not_mem_toDigits (by decide)),
      hasMark_cons fun h => absurd h (by decide), hrest]

theorem Continues.runs {p : Place} {cs : List Char} (h : Continues p cs)
    (hp : ∀ n, .name n ∈ p → IsPart n) (run : List Char) :
    Text.runs isSeparator run cs =
      (if run.isEmpty then [] else [run]) ++ p.map fun step => step.part.toList := by
  induction h generalizing run with
  | nil => simp [Text.runs]
  | @name n p cs _ ih =>
    have hn := hp n (List.mem_cons_self ..)
    have hrest := ih (fun m hm => hp m (List.mem_cons_of_mem _ hm)) n.toList
    rw [Text.runs_gap _ (by decide), Text.runs_append _ hn.unseparated, List.nil_append, hrest]
    simp [hn.nonempty, Step.part]
  | @dotted i p cs _ ih =>
    have hdigits : ∀ c ∈ Nat.toDigits 10 i, isSeparator c = false :=
      fun c hc => isSeparator_of_isDigit (Numeral.isDigit_of_mem_toDigits hc)
    have hrest := ih (fun m hm => hp m (List.mem_cons_of_mem _ hm)) (Nat.toDigits 10 i)
    rw [Text.runs_gap _ (by decide), Text.runs_append _ hdigits, List.nil_append, hrest]
    simp [Step.part]
  | @bracketed i p cs _ ih =>
    have hdigits : ∀ c ∈ Nat.toDigits 10 i, isSeparator c = false :=
      fun c hc => isSeparator_of_isDigit (Numeral.isDigit_of_mem_toDigits hc)
    have hrest := ih (fun m hm => hp m (List.mem_cons_of_mem _ hm)) []
    rw [Text.runs_gap _ (by decide), Text.runs_append _ hdigits, List.nil_append,
      Text.runs_gap _ (by decide), hrest]
    simp [Step.part]

theorem ofText_of_spells {p : Place} {path : String} (h : Spells p path)
    (hp : ∀ n, .name n ∈ p → IsPart n) : Path.ofText path = ⟨p.map Step.part, false⟩ := by
  cases h with
  | @name n p _ cs hc hpath =>
    have hn := hp n (List.mem_cons_self ..)
    have hrest := fun m hm => hp m (List.mem_cons_of_mem _ hm)
    have hmark : hasMark path.toList = false := by
      rw [hpath, hasMark_append (not_mem_of_isPart hn), hc.hasMark hrest]
    have hruns : Text.runs isSeparator [] path.toList =
        n.toList :: p.map fun step => step.part.toList := by
      rw [hpath, Text.runs_append _ hn.unseparated, List.nil_append, hc.runs hrest]
      simp [hn.nonempty]
    rw [Path.ofText, dropMark_of_not_hasMark hmark, hruns, hmark]
    simp [Step.part, Function.comp_def]

end Place

theorem isNumber_part_index (i : Nat) : isNumber (Step.index i).part = true := by
  have hall : ∀ c ∈ Nat.toDigits 10 i, Text.isDigit c = true := fun c hc =>
    Text.isDigit_of_decimalValue?
      (Text.decimalValue?_of_isDigit (Numeral.isDigit_of_mem_toDigits hc))
  simpa [isNumber, Step.part] using hall

theorem readNumber_part_index {i : Nat} (h : i < Nat.pow 10 digitLimit) :
    readNumber (Step.index i).part = .ok i := by
  have hvalues : (Nat.toDigits 10 i).map Text.decimalValue? =
      (Numeral.values (Nat.toDigits 10 i)).map some := by
    rw [Numeral.values, List.map_map]
    exact List.map_congr_left fun c hc =>
      Text.decimalValue?_of_isDigit (Numeral.isDigit_of_mem_toDigits hc)
  have hdigits {k : Nat} (hk : 0 < k) (h : i < Nat.pow 10 k) : (Nat.toDigits 10 i).length ≤ k :=
    (Nat.length_toDigits_le_iff (by decide) hk).mpr h
  have hlength : (Numeral.values (Nat.toDigits 10 i)).length ≤ digitLimit := by
    rw [Numeral.values, List.length_map]
    exact hdigits (by decide) h
  have hvalue : Numeral.ofDigits (Numeral.values (Nat.toDigits 10 i)) = i := by
    rw [Numeral.ofDigits_values, Nat.ofDigitChars_ten_toDigits]
  have htake : ((Numeral.values (Nat.toDigits 10 i)).map some).takeWhile Option.isSome =
      (Numeral.values (Nat.toDigits 10 i)).map some := by
    generalize Numeral.values (Nat.toDigits 10 i) = digits
    induction digits with
    | nil => rfl
    | cons d digits ih => simp [ih]
  simp only [readNumber, Step.part, String.toList_ofList, hvalues, htake, List.length_map]
  rw [if_neg (by omega), if_pos trivial]
  simp [hvalue, List.filterMap_map]

end Microdata
