import Microdata.Location.Basic
set_option autoImplicit false

namespace Microdata.Location

/-- No character is a bracket or stands for one that separates the parts of a location. -/
def IsPlain (location : String) : Prop :=
  ∀ c ∈ location.toList, c ≠ '[' ∧ c ≠ ']' ∧ c.toNat ∉ disguises

theorem isPlain_of_ascii {location : String}
    (h : location.toList.all (fun c => c.toNat < 128 && c != '[' && c != ']')) :
    IsPlain location := by
  intro c hc
  have hascii := List.all_eq_true.mp h c hc
  simp only [Bool.and_eq_true, decide_eq_true_eq, bne_iff_ne] at hascii
  refine ⟨hascii.1.2, hascii.2, fun hd => ?_⟩
  have hge : ∀ n ∈ disguises, 128 ≤ n := by decide
  exact absurd hascii.1.1 (Nat.not_lt_of_le (hge _ hd))

variable {cs : List Char} {c : Char}

theorem mem_of_mem_cleaned (h : c ∈ cleaned cs) : c ∈ cs :=
  (List.dropWhile_sublist _).subset (List.mem_filter.mp h).1

theorem mem_of_mem_cutScheme {scheme : List Char} (h : c ∈ (cutScheme scheme cs).2) : c ∈ cs := by
  unfold cutScheme at h
  split at h
  · rename_i name rest hcut
    split at h
    · rw [Text.append_of_cut? hcut]
      exact List.mem_append_right _ (List.mem_cons_of_mem _ h)
    · exact h
  · exact h

theorem mem_of_mem_cutAuthority (h : c ∈ (cutAuthority cs).1) : c ∈ cs := by
  unfold cutAuthority at h
  split at h
  · rename_i rest
    have hrest := (List.takeWhile_sublist _).subset h
    exact List.mem_cons_of_mem _ (List.mem_cons_of_mem _ hrest)
  · cases h

theorem checkAuthority_eq_ok (h : ∀ c ∈ cs, c ≠ '[' ∧ c ≠ ']' ∧ c.toNat ∉ disguises) :
    checkAuthority cs = .ok () := by
  have hopen : cs.contains '[' = false := by
    rw [Bool.eq_false_iff, Ne, List.contains_iff_mem]
    exact fun hc => (h _ hc).1 rfl
  have hclose : cs.contains ']' = false := by
    rw [Bool.eq_false_iff, Ne, List.contains_iff_mem]
    exact fun hc => (h _ hc).2.1 rfl
  have hplain : (cs.any fun c => disguises.contains c.toNat) = false := by
    rw [List.any_eq_false]
    intro c hc
    rw [List.contains_iff_mem]
    exact (h c hc).2.2
  simp only [checkAuthority, hopen, hclose, hplain]
  rfl

theorem exists_withoutFragment {location : String} (h : IsPlain location) :
    ∃ rest, withoutFragment location = .ok rest := by
  unfold withoutFragment
  split
  · have hcheck : checkAuthority
        (cutAuthority (cutScheme [] (cleaned location.toList)).2).1 = .ok () :=
      checkAuthority_eq_ok fun c hc =>
        h c (mem_of_mem_cleaned (mem_of_mem_cutScheme (mem_of_mem_cutAuthority hc)))
    simp only [read, hcheck]
    exact ⟨_, rfl⟩
  · exact ⟨_, rfl⟩

end Microdata.Location
