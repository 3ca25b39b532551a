import Mathlib.Data.List.Nodup
import Mathlib.Logic.Function.Basic
import Microdata.Binding.Registry
import Microdata.Proofs.Text.Lowercase
set_option autoImplicit false

namespace Microdata

def Candidate.setter? : Candidate → Option Setter
  | setter s => some s
  | other _ => none

def usable? (offer : String × Option Candidate) : Option Setter := offer.2.bind Candidate.setter?

def firstUsable (offers : List (String × Option Candidate)) (tag : String) : Option Setter :=
  offers.findSome? fun offer => if Text.lower offer.1 = tag then usable? offer else none

namespace Registry

variable {r r' : Registry} {tag t : String} {s : Setter} {c : Candidate} {e : RegistryError}

def add (r : Registry) (tag : String) (s : Setter) : Registry :=
  { r with entries := r.entries ++ [(tag, s)] }

structure IsMap (r : Registry) : Prop where
  lower : ∀ p ∈ r.entries, Text.lower p.1 = p.1
  nodup : (r.entries.map (·.1)).Nodup

theorem find?_eq_none_iff : r.find? t = none ↔ t ∉ r.entries.map (·.1) := by
  rw [find?, Option.map_eq_none_iff, List.find?_eq_none, List.mem_map]
  constructor
  · rintro h ⟨p, hp, rfl⟩
    exact h p hp BEq.rfl
  · exact fun h p hp heq => h ⟨p, hp, beq_iff_eq.mp heq⟩

theorem isSome_find?_iff : (r.find? t).isSome ↔ t ∈ r.entries.map (·.1) := by
  rw [← not_iff_not, Bool.not_eq_true, Option.isSome_eq_false_iff, Option.isNone_iff_eq_none,
    find?_eq_none_iff]

theorem find?_add (h : r.find? tag = none) :
    (r.add tag s).find? = Function.update r.find? tag (some s) := by
  funext t
  by_cases ht : t = tag
  · subst ht
    have hnone : r.entries.find? (fun p => p.1 == t) = none := Option.map_eq_none_iff.mp h
    simp [find?, add, List.find?_append, hnone]
  · simp [find?, add, List.find?_append, Function.update_of_ne ht, Ne.symm ht]

theorem find?_filter (r : Registry) (tag : String) :
    Registry.find? { r with entries := r.entries.filter fun p => p.1 != tag } =
      Function.update r.find? tag none := by
  funext t
  by_cases ht : t = tag
  · subst ht
    simp [find?]
  · have hsame : (fun p : String × Setter => decide ((p.1 != tag) = true ∧ (p.1 == t) = true)) =
        fun p => p.1 == t := by
      funext p
      by_cases hp : p.1 = t <;> simp [hp, ht]
    rw [Function.update_of_ne ht, find?, find?, List.find?_filter, hsame]

theorem IsMap.add (h : r.IsMap) (hlower : Text.lower tag = tag) (hfree : r.find? tag = none) :
    (r.add tag s).IsMap := by
  constructor
  · intro p hp
    rcases List.mem_append.mp hp with hp | hp
    · exact h.lower p hp
    · rw [List.mem_singleton.mp hp]
      exact hlower
  · have hnames : (r.add tag s).entries.map (·.1) = (r.entries.map (·.1)).concat tag := by
      simp [Registry.add]
    rw [hnames]
    exact h.nodup.concat (find?_eq_none_iff.mp hfree)

theorem IsMap.filter (h : r.IsMap) (tag : String) :
    IsMap { r with entries := r.entries.filter fun p => p.1 != tag } :=
  ⟨fun p hp => h.lower p (List.mem_of_mem_filter hp),
    h.nodup.sublist (List.filter_sublist.map _)⟩

theorem register_cases (r : Registry) (tag : String) (c : Candidate) :
    (∃ s, r.find? (Text.lower tag) = some s ∧
      r.register tag c = .error (.taken (Text.lower tag))) ∨
    r.find? (Text.lower tag) = none ∧
      ((∃ literal, c = .other literal ∧
        r.register tag c = .error (.notSetter literal (Text.lower tag))) ∨
      ∃ s, c = .setter s ∧ r.register tag c = .ok (r.add (Text.lower tag) s)) := by
  cases hfind : r.find? (Text.lower tag) with
  | some s => exact .inl ⟨s, rfl, by simp [register, hfind]⟩
  | none =>
    cases c with
    | setter s => exact .inr ⟨rfl, .inr ⟨s, rfl, by simp [register, hfind, add]⟩⟩
    | other literal => exact .inr ⟨rfl, .inl ⟨literal, rfl, by simp [register, hfind]⟩⟩

theorem register_eq_ok (h : r.register tag c = .ok r') :
    ∃ s, c = .setter s ∧ r.find? (Text.lower tag) = none ∧ r' = r.add (Text.lower tag) s := by
  obtain ⟨s, -, heq⟩ | ⟨hfree, ⟨literal, -, heq⟩ | ⟨s, hc, heq⟩⟩ := register_cases r tag c
  · cases heq.symm.trans h
  · cases heq.symm.trans h
  · exact ⟨s, hc, hfree, Except.ok.inj (h.symm.trans heq)⟩

theorem IsMap.register (h : r.IsMap) (hr : r.register tag c = .ok r') : r'.IsMap := by
  obtain ⟨s, -, hfree, rfl⟩ := register_eq_ok hr
  exact h.add (Text.lower_lower tag) hfree

theorem registerAll_cases (r : Registry) (c : Candidate) (tags : List String) :
    ∃ before added, added.map (·.1) = before.map Text.lower ∧ (∀ q ∈ added, c = .setter q.2) ∧
      (r.registerAll c tags).1 = { r with entries := r.entries ++ added } ∧
      ((r.registerAll c tags).2 = none ∧ before = tags ∨
        ∃ tag after e, tags = before ++ tag :: after ∧ (r.registerAll c tags).2 = some e ∧
          (r.registerAll c tags).1.register tag c = .error e) := by
  induction tags generalizing r with
  | nil => exact ⟨[], [], rfl, nofun, by simp [registerAll], .inl ⟨rfl, rfl⟩⟩
  | cons tag rest ih =>
    cases h : r.register tag c with
    | error e =>
      have hall : r.registerAll c (tag :: rest) = (r, some e) := by simp only [registerAll, h]
      rw [hall]
      exact ⟨[], [], rfl, nofun, by simp, .inr ⟨tag, rest, e, rfl, rfl, h⟩⟩
    | ok r' =>
      have hall : r.registerAll c (tag :: rest) = r'.registerAll c rest := by
        simp only [registerAll, h]
      obtain ⟨s, rfl, -, rfl⟩ := register_eq_ok h
      obtain ⟨before, added, hadded, hsetter, hregistry, hend⟩ := ih (r.add (Text.lower tag) s)
      rw [hall]
      refine ⟨tag :: before, (Text.lower tag, s) :: added, by simp [hadded],
        List.forall_mem_cons.mpr ⟨rfl, hsetter⟩, by rw [hregistry]; simp [add], ?_⟩
      obtain ⟨hnone, rfl⟩ | ⟨tag', after, e, rfl, he⟩ := hend
      · exact .inl ⟨hnone, rfl⟩
      · exact .inr ⟨tag', after, e, rfl, he⟩

theorem IsMap.registerAll (h : r.IsMap) (tags : List String) : (r.registerAll c tags).1.IsMap := by
  induction tags generalizing r with
  | nil => exact h
  | cons tag rest ih =>
    rw [Registry.registerAll]
    split
    · rename_i hr
      exact ih (h.register hr)
    · exact h

theorem deregister_cases (r : Registry) (tag : String) :
    (∃ s, r.find? (Text.lower tag) = some s ∧ r.deregister tag =
      .ok { r with entries := r.entries.filter fun p => p.1 != Text.lower tag }) ∨
    r.find? (Text.lower tag) = none ∧
      r.deregister tag = .error (.missing (Text.lower tag)) := by
  cases hfind : r.find? (Text.lower tag) with
  | some s => exact .inl ⟨s, rfl, by simp [deregister, hfind]⟩
  | none => exact .inr ⟨rfl, by simp [deregister, hfind]⟩

variable {offer : String × Option Candidate} {offers : List (String × Option Candidate)}

/-- The registry with what is offered, if that can be registered. -/
def accept (r : Registry) (offer : String × Option Candidate) : Registry :=
  match offer.2 with
  | some c =>
    match r.register offer.1 c with
    | .ok r => r
    | .error _ => r
  | none => r

theorem load_cons (r : Registry) (offer : String × Option Candidate)
    (offers : List (String × Option Candidate)) :
    r.load (offer :: offers) = (r.accept offer).load offers := rfl

theorem accept_cases (r : Registry) (offer : String × Option Candidate) :
    r.accept offer = r ∧ ((r.find? (Text.lower offer.1)).isSome ∨ usable? offer = none) ∨
      ∃ s, r.find? (Text.lower offer.1) = none ∧ usable? offer = some s ∧
        r.accept offer = r.add (Text.lower offer.1) s := by
  obtain ⟨name, c⟩ := offer
  cases c with
  | none => exact .inl ⟨rfl, .inr rfl⟩
  | some c =>
    obtain ⟨s, hfind, heq⟩ | ⟨hfree, ⟨literal, rfl, heq⟩ | ⟨s, rfl, heq⟩⟩ :=
      register_cases r name c
    · exact .inl ⟨by simp only [accept, heq], .inl (by rw [hfind]; rfl)⟩
    · exact .inl ⟨by simp only [accept, heq], .inr rfl⟩
    · exact .inr ⟨s, hfree, rfl, by simp only [accept, heq]⟩

theorem IsMap.accept (h : r.IsMap) (offer : String × Option Candidate) :
    (r.accept offer).IsMap := by
  obtain ⟨heq, -⟩ | ⟨s, hfree, -, heq⟩ := accept_cases r offer
  · rwa [heq]
  · rw [heq]
    exact h.add (Text.lower_lower _) hfree

theorem find?_accept (r : Registry) (offer : String × Option Candidate) (t : String) :
    (r.accept offer).find? t =
      (r.find? t).or (if Text.lower offer.1 = t then usable? offer else none) := by
  obtain ⟨heq, htaken | hnone⟩ | ⟨s, hfree, hs, heq⟩ := accept_cases r offer
  · rw [heq]
    split
    · rename_i ht
      rw [ht] at htaken
      rw [Option.or_of_isSome htaken]
    · rw [Option.or_none]
  · rw [heq, hnone, ite_self, Option.or_none]
  · rw [heq, find?_add hfree, hs]
    by_cases ht : Text.lower offer.1 = t
    · subst ht
      rw [Function.update_self, hfree, if_pos rfl, Option.none_or]
    · rw [Function.update_of_ne (Ne.symm ht), if_neg ht, Option.or_none]

theorem firstUsable_cons (offer : String × Option Candidate)
    (offers : List (String × Option Candidate)) (t : String) :
    firstUsable (offer :: offers) t =
      (if Text.lower offer.1 = t then usable? offer else none).or (firstUsable offers t) := by
  rw [firstUsable, List.findSome?_cons]
  cases (if Text.lower offer.1 = t then usable? offer else none) <;> rfl

/-- What is there stays, and a tag that is free gets the first setter that is offered for it. -/
theorem find?_load (r : Registry) (offers : List (String × Option Candidate)) (t : String) :
    (r.load offers).find? t = (r.find? t).or (firstUsable offers t) := by
  induction offers generalizing r with
  | nil => exact (Option.or_none).symm
  | cons offer offers ih =>
    rw [load_cons, ih, find?_accept, firstUsable_cons, Option.or_assoc]

theorem IsMap.load (h : r.IsMap) (offers : List (String × Option Candidate)) :
    (r.load offers).IsMap := by
  induction offers generalizing r with
  | nil => exact h
  | cons offer offers ih => exact ih (h.accept offer)

theorem exists_load_eq (r : Registry) (offers : List (String × Option Candidate)) :
    ∃ added, r.load offers = { r with entries := r.entries ++ added } := by
  induction offers generalizing r with
  | nil => exact ⟨[], by rw [List.append_nil]; rfl⟩
  | cons offer offers ih =>
    obtain ⟨added, hadded⟩ := ih (r.accept offer)
    obtain ⟨heq, -⟩ | ⟨s, -, -, heq⟩ := accept_cases r offer
    · exact ⟨added, by rw [load_cons, hadded, heq]⟩
    · exact ⟨(Text.lower offer.1, s) :: added, by rw [load_cons, hadded, heq]; simp [add]⟩

theorem load_eq_self (h : ∀ t, (firstUsable offers t).isSome → (r.find? t).isSome) :
    r.load offers = r := by
  induction offers with
  | nil => rfl
  | cons offer offers ih =>
    have hrest : ∀ t, (firstUsable offers t).isSome → (r.find? t).isSome := by
      intro t ht
      refine h t ?_
      rw [firstUsable_cons, Option.isSome_or, ht, Bool.or_true]
    obtain ⟨heq, -⟩ | ⟨s, hfree, hs, -⟩ := accept_cases r offer
    · rw [load_cons, heq, ih hrest]
    · have htaken := h (Text.lower offer.1)
      rw [firstUsable_cons, if_pos rfl, hs, hfree] at htaken
      cases htaken rfl

theorem mem_tags : t ∈ r.tags ↔ (r.find? t).isSome := by
  rw [tags, List.mem_mergeSort, isSome_find?_iff]

theorem IsMap.nodup_tags (h : r.IsMap) : r.tags.Nodup :=
  (List.mergeSort_perm _ _).nodup_iff.mpr h.nodup

theorem IsMap.lower_of_mem_tags (h : r.IsMap) (ht : t ∈ r.tags) : Text.lower t = t := by
  obtain ⟨p, hp, rfl⟩ := List.mem_map.mp (isSome_find?_iff.mp (mem_tags.mp ht))
  exact h.lower p hp

end Registry

end Microdata
