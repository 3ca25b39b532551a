import Microdata.Text.Split
set_option autoImplicit false

namespace Microdata.Text

structure FirstCut (part cs before after : List Char) : Prop where
  eq : cs = before ++ part ++ after
  first : ∀ b a, cs = b ++ part ++ a → before.length ≤ b.length

structure LastCut (part cs before after : List Char) : Prop where
  eq : cs = before ++ part ++ after
  last : ∀ b a, cs = b ++ part ++ a → b.length ≤ before.length

variable {part cs before after : List Char} {c : Char}

theorem FirstCut.of_isPrefix (h : part <+: cs) :
    FirstCut part cs before after ↔ before = [] ∧ cs.drop part.length = after := by
  obtain ⟨rest, rfl⟩ := h
  rw [List.drop_left]
  constructor
  · rintro ⟨heq, hfirst⟩
    have hnil : before = [] := List.length_eq_zero_iff.mp (Nat.le_zero.mp (hfirst [] rest rfl))
    subst hnil
    exact ⟨rfl, List.append_cancel_left heq⟩
  · rintro ⟨rfl, rfl⟩
    exact ⟨rfl, fun _ _ _ => Nat.zero_le _⟩

theorem FirstCut.cons_iff (h : ¬ part <+: c :: cs) :
    FirstCut part (c :: cs) before after ↔ ∃ inner, before = c :: inner ∧
      FirstCut part cs inner after := by
  constructor
  · rintro ⟨heq, hfirst⟩
    cases before with
    | nil => exact absurd ⟨after, heq.symm⟩ h
    | cons d inner =>
      obtain ⟨rfl, htail⟩ := List.cons.inj heq
      refine ⟨inner, rfl, htail, fun b a hb => ?_⟩
      exact Nat.le_of_succ_le_succ (hfirst (c :: b) a (congrArg (c :: ·) hb))
  · rintro ⟨inner, rfl, heq, hfirst⟩
    refine ⟨congrArg (c :: ·) heq, fun b a hb => ?_⟩
    cases b with
    | nil => exact absurd ⟨a, hb.symm⟩ h
    | cons d b =>
      obtain ⟨rfl, htail⟩ := List.cons.inj hb
      exact Nat.succ_le_succ (hfirst b a htail)

theorem cutPart?_eq_some_iff :
    cutPart? part cs = some (before, after) ↔ FirstCut part cs before after := by
  induction cs generalizing before with
  | nil =>
    rw [cutPart?]
    by_cases hpart : part = []
    · subst hpart
      rw [FirstCut.of_isPrefix (List.prefix_refl [])]
      simp [eq_comm]
    · have hnone : ¬ FirstCut part [] before after := fun h => by simpa [hpart] using h.eq
      simp [hpart, hnone]
  | cons c cs ih =>
    rw [cutPart?]
    by_cases hpart : part <+: c :: cs
    · rw [if_pos (List.isPrefixOf_iff_prefix.mpr hpart), FirstCut.of_isPrefix hpart]
      simp [eq_comm]
    · rw [if_neg (mt List.isPrefixOf_iff_prefix.mp hpart), FirstCut.cons_iff hpart]
      constructor
      · intro h
        obtain ⟨⟨inner, tail⟩, hinner, he⟩ := Option.map_eq_some_iff.mp h
        cases he
        exact ⟨inner, rfl, ih.mp hinner⟩
      · rintro ⟨inner, rfl, hinner⟩
        rw [ih.mpr hinner, Option.map_some]

/-- The last place is the first one of the reversed text. -/
theorem lastCut_iff_reverse : LastCut part cs before after ↔
    FirstCut part.reverse cs.reverse after.reverse before.reverse := by
  have hflip (b a : List Char) :
      cs.reverse = a.reverse ++ part.reverse ++ b.reverse ↔ cs = b ++ part ++ a := by
    rw [← List.reverse_inj]
    simp
  have hlength {b a : List Char} (h : cs = b ++ part ++ a) :
      cs.length = b.length + part.length + a.length := by
    rw [h, List.length_append, List.length_append]
  constructor
  · rintro ⟨heq, hlast⟩
    refine ⟨(hflip before after).mpr heq, fun b a hb => ?_⟩
    have hb' : cs = a.reverse ++ part ++ b.reverse := (hflip _ _).mp (by simpa using hb)
    have hle := hlast _ _ hb'
    have h₁ := hlength heq
    have h₂ := hlength hb'
    rw [List.length_reverse] at h₂ hle ⊢
    rw [List.length_reverse] at h₂
    omega
  · rintro ⟨heq, hfirst⟩
    have heq' : cs = before ++ part ++ after := (hflip before after).mp heq
    refine ⟨heq', fun b a hb => ?_⟩
    have hle := hfirst a.reverse b.reverse ((hflip b a).mpr hb)
    have h₁ := hlength heq'
    have h₂ := hlength hb
    rw [List.length_reverse, List.length_reverse] at hle
    omega

theorem cutLastPart?_eq_some_iff :
    cutLastPart? part cs = some (before, after) ↔ LastCut part cs before after := by
  rw [lastCut_iff_reverse, ← cutPart?_eq_some_iff, cutLastPart?]
  constructor
  · intro h
    obtain ⟨⟨a, b⟩, hcut, he⟩ := Option.map_eq_some_iff.mp h
    cases he
    simpa using hcut
  · intro h
    rw [h]
    simp

end Microdata.Text
