import Microdata.Markup.Event
import Microdata.Text.Split
set_option autoImplicit false

/-!
Raw data and where it ends. `rawClose?_eq_some_iff` says which texts look like an end tag; only the
first character of such a text is a `<`. Main statements: `unclosed_of_rawData?`, in the raw data
that is read no real end tag begins, and `eventsFrom_raw`, a text in which none begins is read as it
stands up to the end tag that is written behind it.
-/

namespace Microdata.Markup

theorem exists_gap (cs : List Char) : ∃ gap rest, cs = gap ++ rest ∧
    (∀ d ∈ gap, Text.isBlank d = true) ∧ cs.takeWhile Text.isBlank = gap :=
  ⟨_, _, List.takeWhile_append_dropWhile.symm, List.all_eq_true.mp List.all_takeWhile, rfl⟩

theorem blanksThen?_eq_some_iff {c : Char} (hc : Text.isBlank c = false) {cs : List Char} {n : Nat} :
    blanksThen? c cs = some n ↔
      ∃ gap rest, cs = gap ++ c :: rest ∧ (∀ d ∈ gap, Text.isBlank d = true) ∧
        n = gap.length + 1 := by
  constructor
  · intro h
    obtain ⟨gap, rest, rfl, hgap, htake⟩ := exists_gap cs
    unfold blanksThen? at h
    dsimp only at h
    rw [htake, List.drop_left] at h
    split at h
    · rename_i hhead
      cases h
      obtain ⟨rest, rfl⟩ := List.head?_eq_some_iff.mp (eq_of_beq hhead)
      exact ⟨gap, rest, rfl, hgap, rfl⟩
    · cases h
  · rintro ⟨gap, rest, rfl, hgap, rfl⟩
    have hstop : ∀ d ∈ (c :: rest).head?, Text.isBlank d = false := by simpa using hc
    have htake := (Text.takeWhile_append hgap hstop).1
    simp [blanksThen?, htake]

def Looks (tag mark : List Char) (real : Bool) : Prop :=
  ∃ gap word tail, mark = '<' :: '/' :: (gap ++ (word ++ (tail ++ ['>']))) ∧
    (∀ d ∈ gap, Text.isBlank d = true) ∧ (∀ d ∈ tail, Text.isBlank d = true) ∧
    word.length = tag.length ∧ (tag.zipWith looksLike word).all id = true ∧
    (word.map Char.toLower == tag) = real

theorem isBlank_close : Text.isBlank '>' = false := by decide

variable {tag : List Char}

section

variable (htag : ∀ c ∈ tag, c.isLower = true)
include htag

theorem looksLike_letter {l c : Char} (hl : l ∈ tag) (h : looksLike l c = true) :
    Text.isBlank c = false ∧ c ≠ '<' := by
  have hlower := htag l hl
  rw [looksLike, Bool.or_eq_true, Bool.or_eq_true, beq_iff_eq, Bool.and_eq_true, Bool.and_eq_true,
    Bool.or_eq_true, beq_iff_eq, beq_iff_eq, beq_iff_eq, beq_iff_eq, beq_iff_eq] at h
  rcases h with (hsame | ⟨-, rfl⟩) | ⟨-, rfl | rfl⟩
  · have hlt : c.toNat < 128 := by
      refine Nat.lt_of_not_le fun hge => ?_
      have hkept : c.toLower = c := dif_neg fun hupper =>
        Nat.not_le.mpr (Nat.lt_of_le_of_lt hupper.2 (by decide)) hge
      have hz : l.toNat ≤ 122 := of_decide_eq_true (Bool.and_eq_true_iff.mp hlower).2
      rw [← hsame, hkept] at hz
      omega
    exact Text.forall_below
      (p := fun c => c.toLower.isLower = true → Text.isBlank c = false ∧ c ≠ '<')
      (by decide +kernel) hlt (hsame ▸ hlower)
  all_goals decide

theorem mem_of_looksLike {word : List Char} (hlength : word.length = tag.length)
    (hword : (tag.zipWith looksLike word).all id = true) :
    ∀ d ∈ word, Text.isBlank d = false ∧ d ≠ '<' := by
  induction tag generalizing word with
  | nil => simp [List.length_eq_zero_iff.mp hlength]
  | cons l tag ih =>
    cases word with
    | nil => cases hlength
    | cons c word =>
      rw [List.zipWith_cons_cons, List.all_cons, Bool.and_eq_true] at hword
      intro d hd
      rcases List.mem_cons.mp hd with rfl | hd
      · exact looksLike_letter htag (List.mem_cons_self ..) hword.1
      · exact ih (fun c hc => htag c (List.mem_cons_of_mem _ hc)) (Nat.succ.inj hlength) hword.2 d hd

theorem rawClose?_eq_some_iff (hne : tag ≠ []) {cs : List Char} {n : Nat} {real : Bool} :
    rawClose? tag cs = some (n, real) ↔
      ∃ mark rest, cs = mark ++ rest ∧ n = mark.length ∧ Looks tag mark real := by
  constructor
  · intro h
    unfold rawClose? at h
    split at h
    · rename_i rest
      obtain ⟨gap, rest, rfl, hgap, htake⟩ := exists_gap rest
      dsimp only at h
      rw [htake, List.drop_left] at h
      split at h
      · rename_i hlooks
        rw [Bool.and_eq_true, beq_iff_eq] at hlooks
        obtain ⟨m, hm, h⟩ := Option.bind_eq_some_iff.mp h
        cases h
        rw [List.drop_length_add_append] at hm
        obtain ⟨tail, others, hothers, htail, rfl⟩ := (blanksThen?_eq_some_iff isBlank_close).mp hm
        have hrest : rest = rest.take tag.length ++ (tail ++ '>' :: others) := by
          rw [← hothers, List.take_append_drop]
        refine ⟨_, others, ?_, ?_, gap, rest.take tag.length, tail, rfl, hgap, htail, hlooks.1,
          hlooks.2, rfl⟩
        · conv => lhs; rw [hrest]
          simp
        · simp [hlooks.1]
          omega
      · cases h
    · cases h
  · rintro ⟨mark, rest, rfl, rfl, gap, word, tail, rfl, hgap, htail, hlength, hword, hreal⟩
    have hstop : ∀ d ∈ (word ++ (tail ++ '>' :: rest)).head?, Text.isBlank d = false := by
      cases word with
      | nil => exact absurd (List.length_eq_zero_iff.mp hlength.symm) hne
      | cons c word =>
        intro d hd
        cases hd
        exact (mem_of_looksLike htag hlength hword c (List.mem_cons_self ..)).1
    have htake := (Text.takeWhile_append hgap hstop).1
    have hmark : '<' :: '/' :: (gap ++ (word ++ (tail ++ ['>']))) ++ rest =
        '<' :: '/' :: (gap ++ (word ++ (tail ++ '>' :: rest))) := by
      simp
    have hclose := (blanksThen?_eq_some_iff isBlank_close).mpr ⟨tail, rest, rfl, htail, rfl⟩
    rw [hmark]
    simp only [rawClose?, htake, List.drop_left, ← hlength, List.take_left, hword, beq_self_eq_true,
      Bool.and_self, if_true, List.drop_length_add_append, hclose, hreal]
    simp
    omega

end

theorem Looks.not_mem_tail (htag : ∀ c ∈ tag, c.isLower = true) {mark : List Char} {real : Bool}
    (h : Looks tag mark real) : '<' ∉ mark.tail := by
  obtain ⟨gap, word, tail, rfl, hgap, htail, hlength, hword, -⟩ := h
  have hblank : ¬Text.isBlank '<' = true := by decide
  have hmem : '<' ∉ word := fun hm => (mem_of_looksLike htag hlength hword _ hm).2 rfl
  simpa using ⟨fun hm => hblank (hgap _ hm), hmem, fun hm => hblank (htail _ hm)⟩

theorem isLower_of_isRaw {tag : String} (h : isRaw tag = true) :
    tag.toList ≠ [] ∧ ∀ c ∈ tag.toList, c.isLower = true := by
  rw [isRaw, Bool.or_eq_true, beq_iff_eq, beq_iff_eq] at h
  rw [← List.all_eq_true]
  rcases h with rfl | rfl <;> decide

/-- Raw data in which no real end tag begins. -/
def Unclosed (tag text : List Char) : Prop :=
  ∀ cs, cs <:+ text → ∀ n, rawClose? tag cs ≠ some (n, true)

theorem unclosed_nil (tag : List Char) : Unclosed tag [] := by
  intro rest hrest n
  rw [List.suffix_nil.mp hrest]
  exact nofun

theorem Unclosed.cons {c : Char} {text : List Char} (h : Unclosed tag text)
    (hfirst : ∀ n, rawClose? tag (c :: text) ≠ some (n, true)) : Unclosed tag (c :: text) := by
  intro rest hrest
  rcases List.suffix_cons_iff.mp hrest with rfl | hrest
  · exact hfirst
  · exact h rest hrest

theorem rawClose?_of_rawData?_eq_none {cs : List Char} (h : rawData? tag cs = none) :
    ∀ rest, rest <:+ cs → rawClose? tag rest = none := by
  induction cs with
  | nil =>
    intro rest hrest
    rw [List.suffix_nil.mp hrest]
    rfl
  | cons c cs ih =>
    unfold rawData? at h
    split at h
    · cases h
    · split at h
      · cases h
      · cases h
    · rename_i hclose
      intro rest hrest
      rcases List.suffix_cons_iff.mp hrest with rfl | hrest
      · exact hclose
      · exact ih (Option.map_eq_none_iff.mp h) rest hrest

section

variable (hne : tag ≠ []) (htag : ∀ c ∈ tag, c.isLower = true)
include hne htag

theorem rawClose?_append {cs : List Char} {n : Nat} {real : Bool}
    (h : rawClose? tag cs = some (n, real)) (more : List Char) :
    rawClose? tag (cs ++ more) = some (n, real) := by
  obtain ⟨mark, rest, rfl, rfl, hlooks⟩ := (rawClose?_eq_some_iff htag hne).mp h
  exact (rawClose?_eq_some_iff htag hne).mpr ⟨mark, rest ++ more, List.append_assoc .., rfl, hlooks⟩

theorem rawClose?_of_append {cs more : List Char} (hcs : cs ≠ []) {n : Nat} {real : Bool}
    (h : rawClose? tag (cs ++ '<' :: more) = some (n, real)) :
    rawClose? tag cs = some (n, real) := by
  obtain ⟨mark, rest, hsplit, rfl, hlooks⟩ := (rawClose?_eq_some_iff htag hne).mp h
  rcases List.append_eq_append_iff.mp hsplit with ⟨inner, rfl, hinner⟩ | ⟨inner, rfl, -⟩
  · cases inner with
    | nil => exact (rawClose?_eq_some_iff htag hne).mpr ⟨_, [], by simp, rfl, hlooks⟩
    | cons c inner =>
      obtain ⟨rfl, -⟩ := List.cons.inj hinner
      cases cs with
      | nil => exact absurd rfl hcs
      | cons d cs => exact absurd (by simp) (hlooks.not_mem_tail htag)
  · exact (rawClose?_eq_some_iff htag hne).mpr ⟨mark, inner, rfl, rfl, hlooks⟩

theorem unclosed_of_prefix {text cs : List Char} (h : text <+: cs) (hcs : Unclosed tag cs) :
    Unclosed tag text := by
  intro rest hrest n hclose
  obtain ⟨more, rfl⟩ := h
  obtain ⟨before, rfl⟩ := hrest
  exact hcs (rest ++ more) ⟨before, (List.append_assoc ..).symm⟩ n
    (rawClose?_append hne htag hclose more)

/-- The raw data in front of an end tag, or of all that looks like one, holds no real one. -/
theorem unclosed_of_rawData? {cs text : List Char} {close : Option Nat}
    (h : rawData? tag cs = some (text, close)) : text <+: cs ∧ Unclosed tag text := by
  induction cs generalizing text close with
  | nil => cases h
  | cons c cs ih =>
    -- a real end tag at the front of the data would be one in front of what follows, too
    have hcons {t : List Char} (ht : t <+: cs ∧ Unclosed tag t)
        (hfirst : ∀ n, rawClose? tag (c :: cs) ≠ some (n, true)) :
        c :: t <+: c :: cs ∧ Unclosed tag (c :: t) := by
      obtain ⟨⟨more, rfl⟩, ht⟩ := ht
      exact ⟨⟨more, rfl⟩, ht.cons fun n hclose =>
        hfirst n (rawClose?_append hne htag hclose more)⟩
    unfold rawData? at h
    split at h
    · cases h
      exact ⟨List.nil_prefix, unclosed_nil tag⟩
    · rename_i n hlooks
      have hfirst : ∀ m, rawClose? tag (c :: cs) ≠ some (m, true) := by simp [hlooks]
      split at h
      · rename_i hinner
        cases h
        exact hcons (ih hinner) hfirst
      · rename_i hnone
        cases h
        have hcs : Unclosed tag cs := fun rest hrest n => by
          simp [rawClose?_of_rawData?_eq_none hnone rest hrest]
        exact ⟨List.take_prefix .., unclosed_of_prefix hne htag (List.take_prefix ..)
          (hcs.cons hfirst)⟩
    · rename_i hclose
      obtain ⟨⟨t, close⟩, hinner, he⟩ := Option.map_eq_some_iff.mp h
      cases he
      exact hcons (ih hinner) (by simp [hclose])

theorem rawData?_written {text rest : List Char} {n : Nat} (h : Unclosed tag text)
    (hclose : rawClose? tag ('<' :: rest) = some (n, true)) :
    rawData? tag (text ++ '<' :: rest) = some (text, some n) := by
  induction text with
  | nil =>
    rw [List.nil_append, rawData?, hclose]
  | cons c text ih =>
    have hrest := ih fun suffix hs => h suffix (hs.trans (List.suffix_cons ..))
    have hfirst : ∀ m, rawClose? tag (c :: text ++ '<' :: rest) ≠ some (m, true) := fun m hm =>
      h _ List.suffix_rfl m (rawClose?_of_append hne htag (List.cons_ne_nil _ _) hm)
    rw [List.cons_append] at hfirst ⊢
    rw [rawData?, hrest]
    split
    · rename_i m hm
      exact absurd hm (hfirst m)
    · rfl
    · rfl

end

theorem rawClose?_written {tag : String} (h : isRaw tag = true) (rest : List Char) :
    rawClose? tag.toList ('<' :: '/' :: (tag.toList ++ '>' :: rest)) =
      some (tag.toList.length + 3, true) := by
  obtain ⟨hne, htag⟩ := isLower_of_isRaw h
  refine (rawClose?_eq_some_iff htag hne).mpr ⟨'<' :: '/' :: (tag.toList ++ ['>']), rest, by simp,
    by simp, [], tag.toList, [], rfl, by simp, by simp, rfl, ?_⟩
  rw [isRaw, Bool.or_eq_true, beq_iff_eq, beq_iff_eq] at h
  rcases h with rfl | rfl <;> decide

theorem eventsFrom_raw {tag text : String} (h : isRaw tag = true)
    (htext : Unclosed tag.toList text.toList) (rest : List Char) :
    eventsFrom (some tag) (text.toList ++ '<' :: '/' :: (tag.toList ++ '>' :: rest)) =
      (eventsFrom none rest).map (dataEvent text ++ [.stop tag] ++ ·) := by
  obtain ⟨hne, htag⟩ := isLower_of_isRaw h
  have hdata := rawData?_written hne htag htext (rawClose?_written h rest)
  have hdrop : (text.toList ++ '<' :: '/' :: (tag.toList ++ '>' :: rest)).drop
      (text.toList.length + (tag.toList.length + 3)) = rest := by
    have hmark : '<' :: '/' :: (tag.toList ++ '>' :: rest) =
        ('<' :: '/' :: (tag.toList ++ ['>'])) ++ rest := by
      simp
    rw [List.drop_length_add_append, hmark]
    exact List.drop_left' (by simp)
  generalize hwritten : text.toList ++ '<' :: '/' :: (tag.toList ++ '>' :: rest) = written
    at hdata hdrop
  cases written with
  | nil => simp at hwritten
  | cons c written =>
    have hwidth : text.toList.length + (tag.toList.length + 3) =
        text.toList.length + (tag.toList.length + 3 - 1) + 1 := by
      omega
    rw [hwidth, List.drop_succ_cons] at hdrop
    rw [eventsFrom]
    simp only [hdata, String.ofList_toList, hdrop]
    cases eventsFrom none rest with
    | error f => rfl
    | ok es => simp [Except.map, bind, Except.bind]

end Microdata.Markup
