import Microdata.Proofs.Binding.Simulation
set_option autoImplicit false

namespace Microdata

/-- The identifier of a record, if it is a text. Only such records can be referred to. -/
def Value.textId? (v : Value) : Option String :=
  match v.get? idKey with
  | some (.text id) => some id
  | _ => Option.none

def DistinctIds (batch : List Value) : Prop := (batch.filterMap Value.textId?).Nodup

instance (batch : List Value) : Decidable (DistinctIds batch) :=
  inferInstanceAs (Decidable (batch.filterMap Value.textId?).Nodup)

theorem DistinctIds.of_perm {batch batch' : List Value} (h : DistinctIds batch)
    (hperm : batch'.Perm batch) : DistinctIds batch' :=
  (hperm.filterMap Value.textId?).nodup_iff.mpr h

namespace Marker

theorem identifies_iff {id : String} {v : Value} :
    identifies id v = true ↔ v.textId? = some id := by
  unfold identifies Value.textId?
  cases v.get? idKey with
  | none => simp
  | some w =>
    cases w with
    | text s => simp
    | _ => simp

theorem find?_identifies_iff {batch : List Value} (h : DistinctIds batch) {id : String}
    {v : Value} : batch.find? (identifies id) = some v ↔ v ∈ batch ∧ v.textId? = some id := by
  induction batch with
  | nil => simp
  | cons w rest ih =>
    have hpairs := List.pairwise_filterMap.mp h
    obtain ⟨hw, hrest⟩ := List.pairwise_cons.mp hpairs
    have hrest : DistinctIds rest := List.pairwise_filterMap.mpr hrest
    by_cases hid : w.textId? = some id
    · rw [List.find?_cons_of_pos (identifies_iff.mpr hid), Option.some.injEq]
      constructor
      · rintro rfl
        exact ⟨List.mem_cons_self .., hid⟩
      · rintro ⟨hmem, hv⟩
        obtain rfl | hmem := List.mem_cons.mp hmem
        · rfl
        · exact absurd rfl (hw v hmem id hid id hv)
    · rw [List.find?_cons_of_neg (fun hc => hid (identifies_iff.mp hc)), ih hrest]
      constructor
      · rintro ⟨hmem, hv⟩
        exact ⟨List.mem_cons_of_mem w hmem, hv⟩
      · rintro ⟨hmem, hv⟩
        obtain rfl | hmem := List.mem_cons.mp hmem
        · exact absurd hv hid
        · exact ⟨hmem, hv⟩

theorem resolve?_perm (m : Marker) {batch batch' : List Value} (h : DistinctIds batch)
    (hperm : batch'.Perm batch) (v : Value) : m.resolve? v batch' = m.resolve? v batch := by
  have hfind (id : String) : batch'.find? (identifies id) = batch.find? (identifies id) := by
    ext w
    rw [find?_identifies_iff h, find?_identifies_iff (h.of_perm hperm), hperm.mem_iff]
  simp only [resolve?, hfind]

end Marker

theorem evaluate_perm (m : Marker) (source : String) (record : Value) {batch batch' : List Value}
    (h : DistinctIds batch) (hperm : batch'.Perm batch) (path : String) (strict : Bool) :
    evaluate m source record batch' path strict = evaluate m source record batch path strict := by
  simp only [evaluate, m.resolve?_perm h hperm]

structure Context.Reordered (c d : Context) : Prop where
  current : d.current = c.current
  base : d.base = c.base
  depth : d.depth = c.depth
  ancestors : d.ancestors = c.ancestors
  batch : d.batch.Perm c.batch
  ids : DistinctIds c.batch

theorem Context.Reordered.descend {c d : Context} (h : c.Reordered d) (v : Value)
    (linked : Bool) : (c.descend v linked).Reordered (d.descend v linked) where
  current := rfl
  base := h.base
  depth := by simp [h.depth]
  ancestors := by simp only [Context.descend, h.ancestors]
  batch := h.batch
  ids := h.ids

namespace Renderer

/-- Without a filter a batch is read only to resolve references. -/
theorem coupled_reordered (r : Renderer) {s : Shape} (hs : s.filter = none) :
    Coupled .agree r r Context.Reordered s where
  marker := rfl
  vocabulary := rfl
  report _ := .refl _
  current h := h.current
  filtered _ _ hf _ := by
    rw [hs] at hf
    cases hf
  pointed _ _ hf _ _ := by
    rw [hs] at hf
    cases hf
  resolved h v := r.config.marker.resolve?_perm h.ids h.batch v
  start _ _ _ := .refl _
  write _ _ _ _ := .refl _
  mark h _ _ e := by
    simp only [markIdentity, h.base]
    exact .refl _
  judge {c d} h v _ := by
    have hjudge : r.judge s v d.batch = r.judge s v c.batch := by
      simp only [judge, evaluate_perm _ _ _ h.ids h.batch]
    rw [hjudge]
    exact .refl _
  enter {c d} h v linked _ := by
    have hcycle : d.isCycle v = c.isCycle v := by simp only [Context.isCycle, h.ancestors]
    refine Reported.Agree.bind (.refl _) fun _ _ _ _ _ => ?_
    simp only [allow, hcycle, h.depth]
    split
    · exact Reported.Agree.bind (.refl _) fun _ _ _ _ _ => .result [] .none
    · split
      · exact Reported.Agree.bind (.refl _) fun _ _ _ _ _ => .result [] .none
      · exact .result [] (.some (h.descend v linked))

theorem renderAt_perm (r : Renderer) {p : Pattern} (hp : ∀ q ∈ p.walk, q.shape.filter = none)
    {c d : Context} (h : c.Reordered d) : renderAt r c p = renderAt r d p :=
  Reported.Agree.eq (rel_renderAt p (fun q hq => r.coupled_reordered (hp q hq)) h)

end Renderer
end Microdata
