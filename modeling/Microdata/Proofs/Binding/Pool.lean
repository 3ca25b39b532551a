import Microdata.Binding.Pool
import Microdata.Proofs.Binding.Registry
set_option autoImplicit false

/-!
A registry in use as a finite map. What a request does is said once for the instances (`step_cases`)
and once for the entries (`registryAfter_cases`). `TagMap` is what requests come to, a setter for
some tags in lower case; a pool answers them as the map does (`Sound.step_refines`), whatever
instances it keeps. Main statement: `refines_tagMap`, for all requests one after the other, with
what is promised of the next one (`Promises`).
-/

namespace Microdata

abbrev TagMap := String → Option Setter

namespace TagMap

open Pool (Request Answer)

def register (m : TagMap) (tag : String) (c : Candidate) : Answer × TagMap :=
  match m (Text.lower tag), c with
  | some _, _ => (.failed (.taken (Text.lower tag)), m)
  | none, .setter s => (.done, Function.update m (Text.lower tag) (some s))
  | none, .other literal => (.failed (.notSetter literal (Text.lower tag)), m)

/-- One tag behind the other, up to the first that fails. -/
def registerAll (c : Candidate) : TagMap → List String → Answer × TagMap
  | m, [] => (.done, m)
  | m, tag :: rest =>
    match m.register tag c with
    | (.done, m) => registerAll c m rest
    | failed => failed

def deregister (m : TagMap) (tag : String) : Answer × TagMap :=
  match m (Text.lower tag) with
  | some _ => (.done, Function.update m (Text.lower tag) none)
  | none => (.failed (.missing (Text.lower tag)), m)

/-- What a map answers to a request, and the map after it. An element is answered with the setter
for it, if there are instances of that. -/
def step (fallback : Setter) (m : TagMap) : Request → Answer × TagMap
  | .register tag c => m.register tag c
  | .registerAll tags c => registerAll c m tags
  | .deregister tag => m.deregister tag
  | .load offers => (.done, fun t => (m t).or (firstUsable offers t))
  | .get tag => ((m (Text.lower tag)).elim (.failed (.missing tag)) .setter, m)
  | .contains tag => (.contained (m (Text.lower tag)).isSome, m)
  | .instanceFor e =>
    let due := (m e.tagName).getD fallback
    (due.obstacle.elim (.setter due) .unmade, m)

def run (fallback : Setter) : TagMap → List Request → List Answer × TagMap
  | m, [] => ([], m)
  | m, q :: qs =>
    let (a, m) := m.step fallback q
    let (as, m) := run fallback m qs
    (a :: as, m)

end TagMap

namespace Pool

variable {p : Pool} {s : Setter} {i : Instance} {e : Element} {q : Request} {t : String}

/-- The registry is a map, and every instance is one of the setter under which it is kept. -/
structure Sound (p : Pool) : Prop where
  isMap : p.registry.IsMap
  setter : ∀ k ∈ p.instances, k.2.setter = k.1
  made : ∀ k ∈ p.instances, k.1.obstacle = none

theorem instanceOf_kept (h : p.kept? s = some i) : p.instanceOf s = (.ok i, p) := by
  simp only [instanceOf, h]

theorem instanceOf_cases (p : Pool) (s : Setter) :
    (∃ i, p.kept? s = some i ∧ p.instanceOf s = (.ok i, p)) ∨ p.kept? s = none ∧
      ((∃ f, s.obstacle = some f ∧ p.instanceOf s = (.error f, p)) ∨
        s.obstacle = none ∧ p.instanceOf s = (.ok ⟨s, p.instances.length⟩,
          { p with instances := p.instances ++ [(s, ⟨s, p.instances.length⟩)] })) := by
  cases h : p.kept? s with
  | some i => exact .inl ⟨i, rfl, instanceOf_kept h⟩
  | none =>
    cases hs : s.obstacle with
    | some f => exact .inr ⟨rfl, .inl ⟨f, rfl, by simp only [instanceOf, h, hs]⟩⟩
    | none => exact .inr ⟨rfl, .inr ⟨rfl, by simp only [instanceOf, h, hs]⟩⟩

theorem registry_instanceOf (p : Pool) (s : Setter) :
    (p.instanceOf s).2.registry = p.registry := by
  obtain ⟨i, -, heq⟩ | ⟨-, ⟨f, -, heq⟩ | ⟨-, heq⟩⟩ := p.instanceOf_cases s <;> rw [heq]

theorem Sound.instanceOf_fate (h : p.Sound) (s : Setter) :
    (s.obstacle = none ∧ ∃ i, (p.instanceOf s).1 = .ok i ∧ i.setter = s) ∨
      ∃ f, s.obstacle = some f ∧ p.instanceOf s = (.error f, p) := by
  obtain ⟨i, hi, heq⟩ | ⟨-, ⟨f, hf, heq⟩ | ⟨hfree, heq⟩⟩ := p.instanceOf_cases s
  · obtain ⟨k, hk, rfl⟩ := Option.map_eq_some_iff.mp hi
    have hmem := List.mem_of_find?_eq_some hk
    have hname := List.find?_some hk
    have hsetter : k.1 = s := beq_iff_eq.mp hname
    exact .inl ⟨hsetter ▸ h.made k hmem, k.2, congrArg Prod.fst heq,
      (h.setter k hmem).trans hsetter⟩
  · exact .inr ⟨f, hf, heq⟩
  · exact .inl ⟨hfree, _, congrArg Prod.fst heq, rfl⟩

theorem Sound.instanceOf (h : p.Sound) (s : Setter) : (p.instanceOf s).2.Sound := by
  obtain ⟨i, -, heq⟩ | ⟨-, ⟨f, -, heq⟩ | ⟨hfree, heq⟩⟩ := p.instanceOf_cases s
  · rwa [heq]
  · rwa [heq]
  · rw [heq]
    refine ⟨h.isMap, fun k hk => ?_, fun k hk => ?_⟩
    · rcases List.mem_append.mp hk with hk | hk
      · exact h.setter k hk
      · rw [List.mem_singleton.mp hk]
    · rcases List.mem_append.mp hk with hk | hk
      · exact h.made k hk
      · rwa [List.mem_singleton.mp hk]

/-- What is written on an element does not depend on the instances that are kept. -/
theorem Sound.write_eq (h : p.Sound) (e : Element) (v : Value) :
    (p.write e v).1 = p.registry.write e v := by
  change ((p.instanceOf (p.registry.setterFor e)).1 >>= fun i => i.setter.target.write e v) = _
  rw [Registry.write, Setter.write]
  obtain ⟨hfree, i, hi, hsetter⟩ | ⟨f, hf, heq⟩ := h.instanceOf_fate (p.registry.setterFor e)
  · rw [hi, hfree, ← hsetter]
    rfl
  · rw [heq, hf]
    rfl

theorem kept?_instanceOf (h : (p.instanceOf s).1 = .ok i) :
    (p.instanceOf s).2.kept? s = some i := by
  obtain ⟨j, hj, heq⟩ | ⟨hnone, ⟨f, -, heq⟩ | ⟨-, heq⟩⟩ := p.instanceOf_cases s
  · rw [heq] at h ⊢
    cases h
    exact hj
  · rw [heq] at h
    cases h
  · have hnone : p.instances.find? (fun k => k.1 == s) = none := Option.map_eq_none_iff.mp hnone
    rw [heq] at h ⊢
    cases h
    simp [kept?, List.find?_append, hnone]

theorem kept?_instanceOf_of_kept (h : p.kept? s = some i) (s' : Setter) :
    (p.instanceOf s').2.kept? s = some i := by
  obtain ⟨j, -, heq⟩ | ⟨-, ⟨f, -, heq⟩ | ⟨-, heq⟩⟩ := p.instanceOf_cases s'
  · rwa [heq]
  · rwa [heq]
  · obtain ⟨k, hk, rfl⟩ := Option.map_eq_some_iff.mp h
    rw [heq]
    simp [kept?, List.find?_append, hk]

def registryAfter (r : Registry) : Request → Registry
  | .register tag c => (r.register tag c).toOption.getD r
  | .registerAll tags c => (r.registerAll c tags).1
  | .deregister tag => (r.deregister tag).toOption.getD r
  | .load offers => r.load offers
  | _ => r

theorem update_eq (p : Pool) (x : Except RegistryError Registry) :
    (p.update x).2 = { p with registry := x.toOption.getD p.registry } := by
  cases x <;> rfl

theorem step_cases (p : Pool) (q : Request) :
    (∃ e, q = .instanceFor e ∧ (p.step q).2 = (p.instanceFor e).2) ∨
      (p.step q).2 = { p with registry := registryAfter p.registry q } := by
  cases q with
  | register tag c => exact .inr (p.update_eq _)
  | deregister tag => exact .inr (p.update_eq _)
  | get tag =>
    refine .inr ?_
    simp only [step, registryAfter]
    cases p.registry.get tag <;> rfl
  | instanceFor e => exact .inl ⟨e, rfl, rfl⟩
  | registerAll | load | contains => exact .inr rfl

theorem registry_step (p : Pool) (q : Request) :
    (p.step q).2.registry = registryAfter p.registry q := by
  obtain ⟨e, rfl, heq⟩ | heq := p.step_cases q
  · rw [heq]
    exact p.registry_instanceOf _
  · rw [heq]

theorem isMap_registryAfter {r : Registry} (h : r.IsMap) (q : Request) :
    (registryAfter r q).IsMap := by
  cases q with
  | register tag c =>
    rw [registryAfter]
    cases hr : r.register tag c with
    | error e => exact h
    | ok r' => exact h.register hr
  | registerAll tags c => exact h.registerAll tags
  | deregister tag =>
    obtain ⟨s, -, heq⟩ | ⟨-, heq⟩ := r.deregister_cases tag
    · rw [registryAfter, heq]
      exact h.filter _
    · rw [registryAfter, heq]
      exact h
  | load offers => exact h.load offers
  | get | contains | instanceFor => exact h

theorem registryAfter_cases (r : Registry) (q : Request) :
    (∃ tag, q = .deregister tag ∧ registryAfter r q =
      { r with entries := r.entries.filter fun k => k.1 != Text.lower tag }) ∨
    ∃ added, registryAfter r q = { r with entries := r.entries ++ added } := by
  have hsame : ∃ added, r = { r with entries := r.entries ++ added } :=
    ⟨[], by rw [List.append_nil]⟩
  cases q with
  | register tag c =>
    rw [registryAfter]
    cases hr : r.register tag c with
    | error e => exact .inr hsame
    | ok r' =>
      obtain ⟨s, -, -, rfl⟩ := Registry.register_eq_ok hr
      exact .inr ⟨[(Text.lower tag, s)], rfl⟩
  | registerAll tags c =>
    obtain ⟨_, added, -, -, heq, -⟩ := r.registerAll_cases c tags
    exact .inr ⟨added, heq⟩
  | deregister tag =>
    rw [registryAfter]
    obtain ⟨s, -, heq⟩ | ⟨-, heq⟩ := r.deregister_cases tag
    · exact .inl ⟨tag, rfl, by rw [heq]; rfl⟩
    · rw [heq]
      exact .inr hsame
  | load offers => exact .inr (r.exists_load_eq offers)
  | get | contains | instanceFor => exact .inr hsame

theorem fallback_registryAfter (r : Registry) (q : Request) :
    (registryAfter r q).fallback = r.fallback := by
  obtain ⟨_, -, heq⟩ | ⟨_, heq⟩ := registryAfter_cases r q <;> rw [heq]

theorem Sound.step (h : p.Sound) (q : Request) : (p.step q).2.Sound := by
  obtain ⟨e, -, heq⟩ | heq := p.step_cases q
  · rw [heq]
    exact h.instanceOf _
  · rw [heq]
    exact ⟨isMap_registryAfter h.isMap q, h.setter, h.made⟩

theorem kept?_step (h : p.kept? s = some i) (q : Request) : (p.step q).2.kept? s = some i := by
  obtain ⟨e, -, heq⟩ | heq := p.step_cases q
  · rw [heq]
    exact kept?_instanceOf_of_kept h _
  · rwa [heq]

def Answer.plain : Answer → Answer
  | handed i => .setter i.setter
  | a => a

theorem registerAll_refines (r : Registry) (c : Candidate) (tags : List String) :
    TagMap.registerAll c r.find? tags =
      ((r.registerAll c tags).2.elim .done .failed, (r.registerAll c tags).1.find?) := by
  induction tags generalizing r with
  | nil => rfl
  | cons tag rest ih =>
    obtain ⟨s, hfind, heq⟩ | ⟨hfree, ⟨literal, rfl, heq⟩ | ⟨s, rfl, heq⟩⟩ :=
      r.register_cases tag c
    · simp only [TagMap.registerAll, TagMap.register, Registry.registerAll, hfind, heq,
        Option.elim_some]
    · simp only [TagMap.registerAll, TagMap.register, Registry.registerAll, hfree, heq,
        Option.elim_some]
    · simp only [TagMap.registerAll, TagMap.register, Registry.registerAll, hfree, heq]
      rw [← Registry.find?_add hfree, ih]

/-- A pool answers as the map of its tags does, and changes as that does. -/
theorem Sound.step_refines (h : p.Sound) (q : Request) :
    TagMap.step p.registry.fallback p.registry.find? q =
      ((p.step q).1.plain, (p.step q).2.registry.find?) := by
  cases q with
  | register tag c =>
    obtain ⟨s, hfind, heq⟩ | ⟨hfree, ⟨literal, rfl, heq⟩ | ⟨s, rfl, heq⟩⟩ :=
      p.registry.register_cases tag c
    · simp only [TagMap.step, TagMap.register, Pool.step, update, hfind, heq, Answer.plain]
    · simp only [TagMap.step, TagMap.register, Pool.step, update, hfree, heq, Answer.plain]
    · simp only [TagMap.step, TagMap.register, Pool.step, update, hfree, heq, Answer.plain,
        Registry.find?_add hfree]
  | registerAll tags c =>
    rw [TagMap.step, registerAll_refines]
    simp only [Pool.step]
    cases (p.registry.registerAll c tags).2 <;> rfl
  | deregister tag =>
    obtain ⟨s, hfind, heq⟩ | ⟨hfree, heq⟩ := p.registry.deregister_cases tag
    · simp only [TagMap.step, TagMap.deregister, Pool.step, update, hfind, heq, Answer.plain,
        Registry.find?_filter]
    · simp only [TagMap.step, TagMap.deregister, Pool.step, update, hfree, heq, Answer.plain]
  | load offers =>
    simp only [TagMap.step, Pool.step, Answer.plain]
    exact congrArg _ (funext fun t => (Registry.find?_load ..).symm)
  | get tag =>
    simp only [TagMap.step, Pool.step, Registry.get]
    cases p.registry.find? (Text.lower tag) <;> rfl
  | contains tag => rfl
  | instanceFor e =>
    have hdue : p.registry.setterFor e = (p.registry.find? e.tagName).getD p.registry.fallback :=
      rfl
    simp only [TagMap.step, Pool.step, instanceFor, registry_instanceOf, ← hdue]
    obtain ⟨hfree, i, hi, hsetter⟩ | ⟨f, hf, heq⟩ := h.instanceOf_fate (p.registry.setterFor e)
    · rw [hi, hfree, ← hsetter]
      rfl
    · rw [heq, hf]
      rfl

theorem run_cons (p : Pool) (q : Request) (qs : List Request) :
    p.run (q :: qs) = ((p.step q).1 :: ((p.step q).2.run qs).1, ((p.step q).2.run qs).2) := rfl

theorem Sound.run (h : p.Sound) (qs : List Request) : (p.run qs).2.Sound := by
  induction qs generalizing p with
  | nil => exact h
  | cons q qs ih => exact ih (h.step q)

theorem kept?_run (h : p.kept? s = some i) (qs : List Request) :
    (p.run qs).2.kept? s = some i := by
  induction qs generalizing p with
  | nil => exact h
  | cons q qs ih => exact ih (kept?_step h q)

theorem fallback_run (p : Pool) (qs : List Request) :
    (p.run qs).2.registry.fallback = p.registry.fallback := by
  induction qs generalizing p with
  | nil => rfl
  | cons q qs ih => rw [run_cons, ih, registry_step, fallback_registryAfter]

theorem Sound.run_refines (h : p.Sound) (qs : List Request) :
    TagMap.run p.registry.fallback p.registry.find? qs =
      ((p.run qs).1.map Answer.plain, (p.run qs).2.registry.find?) := by
  induction qs generalizing p with
  | nil => rfl
  | cons q qs ih =>
    have hrest := ih (h.step q)
    rw [registry_step, fallback_registryAfter, ← registry_step] at hrest
    simp only [TagMap.run, h.step_refines, hrest]
    rfl

theorem isSome_registryAfter {r : Registry} (hq : ∀ tag, q ≠ .deregister tag)
    (h : (r.find? t).isSome) : ((registryAfter r q).find? t).isSome := by
  obtain ⟨tag, hout, -⟩ | ⟨added, heq⟩ := registryAfter_cases r q
  · exact absurd hout (hq tag)
  · rw [Registry.isSome_find?_iff] at h ⊢
    rw [heq, List.map_append]
    exact List.mem_append_left _ h

theorem isSome_run {qs : List Request} (hqs : ∀ q ∈ qs, ∀ tag, q ≠ .deregister tag)
    (h : (p.registry.find? t).isSome) : ((p.run qs).2.registry.find? t).isSome := by
  induction qs generalizing p with
  | nil => exact h
  | cons q qs ih =>
    obtain ⟨hq, hqs⟩ := List.forall_mem_cons.mp hqs
    have hnext : ((p.step q).2.registry.find? t).isSome := by
      rw [registry_step]
      exact isSome_registryAfter hq h
    exact ih hqs hnext

/-- What is promised of the next request to a pool. -/
structure Promises (p : Pool) : Prop where
  lower_tags : ∀ t ∈ p.registry.tags, Text.lower t = t
  nodup_tags : p.registry.tags.Nodup
  mem_tags : ∀ t, t ∈ p.registry.tags ↔ (p.registry.find? t).isSome
  register_failed : ∀ tag c e, (p.step (.register tag c)).1 = .failed e →
    (p.step (.register tag c)).2 = p
  deregister_failed : ∀ tag e, (p.step (.deregister tag)).1 = .failed e →
    (p.step (.deregister tag)).2 = p
  registerAll_failed : ∀ tags c e, (p.step (.registerAll tags c)).1 = .failed e →
    ∃ before tag after added, tags = before ++ tag :: after ∧
      added.map (·.1) = before.map Text.lower ∧ (∀ k ∈ added, c = .setter k.2) ∧
      (p.step (.registerAll tags c)).2 =
        { p with registry := { p.registry with entries := p.registry.entries ++ added } } ∧
      ((p.step (.registerAll tags c)).2.step (.register tag c)).1 = .failed e
  load_kept : ∀ offers t s, p.registry.find? t = some s →
    (p.step (.load offers)).2.registry.find? t = some s
  load_first : ∀ offers t, p.registry.find? t = none →
    (p.step (.load offers)).2.registry.find? t = firstUsable offers t
  load_again : ∀ offers between, (∀ q ∈ between, ∀ tag, q ≠ .deregister tag) →
    ((p.run (.load offers :: between)).2.step (.load offers)).2 =
      (p.run (.load offers :: between)).2
  /-- An element is answered with an instance of the setter that is due, or with what making one
  ends in, if none can be made. Then nothing is kept. -/
  instance_setter : ∀ e, let due := (p.registry.find? e.tagName).getD p.registry.fallback
    (due.obstacle = none ∧ (∃ i, (p.step (.instanceFor e)).1 = .handed i ∧ i.setter = due) ∧
      (p.step (.instanceFor e)).2.registry = p.registry) ∨
    ∃ f, due.obstacle = some f ∧ p.step (.instanceFor e) = (.unmade f, p)
  /-- Whenever the setter of an instance is due again, it is the same instance. -/
  instance_again : ∀ e i, (p.step (.instanceFor e)).1 = .handed i →
    ∀ between e', let later := (p.run (.instanceFor e :: between)).2
      later.registry.setterFor e' = i.setter → (later.step (.instanceFor e')).1 = .handed i

theorem update_failed {x : Except RegistryError Registry} {error : RegistryError}
    (h : (p.update x).1 = .failed error) : (p.update x).2 = p := by
  cases x with
  | ok r => cases h
  | error _ => rfl

theorem registerAll_failed {tags : List String} {c : Candidate} {error : RegistryError}
    (h : (p.step (.registerAll tags c)).1 = .failed error) :
    ∃ before tag after added, tags = before ++ tag :: after ∧
      added.map (·.1) = before.map Text.lower ∧ (∀ k ∈ added, c = .setter k.2) ∧
      (p.step (.registerAll tags c)).2 =
        { p with registry := { p.registry with entries := p.registry.entries ++ added } } ∧
      ((p.step (.registerAll tags c)).2.step (.register tag c)).1 = .failed error := by
  obtain ⟨before, added, hadded, hsetter, hregistry, ⟨hnone, -⟩ | ⟨tag, after, e, htags, he, hr⟩⟩ :=
    p.registry.registerAll_cases c tags
  · simp only [step, hnone] at h
    cases h
  · simp only [step, he] at h
    cases h
    refine ⟨before, tag, after, added, htags, hadded, hsetter, ?_, ?_⟩
    · simp only [step, hregistry]
    · simp only [step, update, hr]

theorem load_again (p : Pool) {offers : List (String × Option Candidate)} {between : List Request}
    (h : ∀ q ∈ between, ∀ tag, q ≠ .deregister tag) :
    ((p.run (.load offers :: between)).2.step (.load offers)).2 =
      (p.run (.load offers :: between)).2 := by
  have hloaded : ∀ t, (firstUsable offers t).isSome →
      ((p.run (.load offers :: between)).2.registry.find? t).isSome := by
    intro t ht
    refine isSome_run (p := (p.step (.load offers)).2) h ?_
    rw [registry_step, registryAfter, Registry.find?_load, Option.isSome_or, ht, Bool.or_true]
  generalize (p.run (.load offers :: between)).2 = later at hloaded ⊢
  simp only [step, Registry.load_eq_self hloaded]

theorem ofInstance_eq_handed {x : Except Fault Instance} :
    Answer.ofInstance x = .handed i ↔ x = .ok i := by
  cases x <;> simp [Answer.ofInstance]

theorem instance_again (between : List Request) {e' : Element}
    (hi : (p.instanceFor e).1 = .ok i) (hsetter : i.setter = p.registry.setterFor e)
    (hdue : (p.run (.instanceFor e :: between)).2.registry.setterFor e' = i.setter) :
    ((p.run (.instanceFor e :: between)).2.step (.instanceFor e')).1 = .handed i := by
  have hkept : (p.run (.instanceFor e :: between)).2.kept? (p.registry.setterFor e) = some i :=
    kept?_run (kept?_instanceOf hi) between
  generalize (p.run (.instanceFor e :: between)).2 = later at hdue hkept ⊢
  simp only [step, instanceFor, hdue, hsetter, instanceOf_kept hkept, Answer.ofInstance]

theorem Sound.instance_setter (h : p.Sound) (e : Element) :
    ((p.registry.setterFor e).obstacle = none ∧
      (∃ i, (p.step (.instanceFor e)).1 = .handed i ∧ i.setter = p.registry.setterFor e) ∧
      (p.step (.instanceFor e)).2.registry = p.registry) ∨
    ∃ f, (p.registry.setterFor e).obstacle = some f ∧
      p.step (.instanceFor e) = (.unmade f, p) := by
  obtain ⟨hfree, i, hi, hsetter⟩ | ⟨f, hf, heq⟩ := h.instanceOf_fate (p.registry.setterFor e)
  · exact .inl ⟨hfree, ⟨i, ofInstance_eq_handed.mpr hi, hsetter⟩, p.registry_instanceOf _⟩
  · refine .inr ⟨f, hf, ?_⟩
    simp only [Pool.step, instanceFor, heq, Answer.ofInstance]

theorem Sound.promises (h : p.Sound) : p.Promises where
  lower_tags _ ht := h.isMap.lower_of_mem_tags ht
  nodup_tags := h.isMap.nodup_tags
  mem_tags _ := Registry.mem_tags
  register_failed _ _ _ he := update_failed he
  deregister_failed _ _ he := update_failed he
  registerAll_failed _ _ _ he := registerAll_failed he
  load_kept offers t s hs := by
    rw [registry_step, registryAfter, Registry.find?_load, hs, Option.some_or]
  load_first offers t hnone := by
    rw [registry_step, registryAfter, Registry.find?_load, hnone, Option.none_or]
  load_again _ _ hbetween := load_again p hbetween
  instance_setter e := h.instance_setter e
  instance_again e i hi between e' hdue := by
    have hmade : (p.instanceFor e).1 = .ok i := ofInstance_eq_handed.mp hi
    refine instance_again between hmade ?_ hdue
    obtain ⟨-, j, hj, hsetter⟩ | ⟨f, -, heq⟩ := h.instanceOf_fate (p.registry.setterFor e)
    · cases hj.symm.trans hmade
      exact hsetter
    · rw [instanceFor, heq] at hmade
      cases hmade

theorem sound_fresh (fallback : Setter) : (fresh fallback).Sound :=
  ⟨⟨nofun, .nil⟩, List.forall_mem_nil _, List.forall_mem_nil _⟩

def replacement : List Request :=
  [.registerAll ["X-Map", "img", "x-map"] (.setter .source),
    .instanceFor (.mk (.named "x-map") [] "" []), .deregister "X-MAP",
    .load [("x-map", none), ("X-map", some (.other "5")), ("x-MAP", some (.setter .href))]]

end Pool
end Microdata
