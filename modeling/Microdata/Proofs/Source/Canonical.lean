import Microdata.Source
import Microdata.Proofs.Form.Totality
set_option autoImplicit false

/-!
Canonical values: scalars, lists, and records whose keys are different texts. Whatever makes a
record makes a canonical one: values stored at paths (`foldPairs_isNormal`), the properties of
elements (`extract_canonical`) and the entries of other records (`normalizeFields_canonical`); and a
canonical value is its own normal form (`normalizeInner_of_canonical`). Main statement:
`normalize_isNormal`, what a source is normalized to is canonical, and is the same when it is
normalized again.
-/

namespace Microdata

namespace Value

def isScalar : Value → Bool
  | none | bool _ | int _ | float _ | text _ | date _ | bytes _ => true
  | _ => false

/-- What may describe records: scalars, elements, pages and forms, in lists, tuples and records with
any keys. -/
inductive IsSource : Value → Prop
  | scalar {v : Value} (h : v.isScalar = true) : IsSource v
  | list {items : List Value} (h : ∀ v ∈ items, IsSource v) : IsSource (.list items)
  | tuple {items : List Value} (h : ∀ v ∈ items, IsSource v) : IsSource (.tuple items)
  | record {fields : Fields} (h : ∀ e ∈ fields, IsSource e.2) : IsSource (.record fields)
  | element (e : Element) : IsSource (.element e)
  | document (d : Document) : IsSource (.document d)
  | form {pairs : List (String × Value)} (h : ∀ p ∈ pairs, ∃ s, p.2 = .text s) :
    IsSource (.form pairs)

inductive Canonical : Value → Prop
  | scalar {v : Value} (h : v.isScalar = true) : Canonical v
  | list {items : List Value} (h : ∀ v ∈ items, Canonical v) : Canonical (.list items)
  | record {fields : Fields} (names : ∀ e ∈ fields, ∃ n, e.1 = .text n)
    (distinct : (fields.map (·.1)).Nodup) (h : ∀ e ∈ fields, Canonical e.2) :
    Canonical (.record fields)

/-- A canonical list or record: what a source is normalized to. -/
structure IsNormal (v : Value) : Prop where
  canonical : v.Canonical
  isContainer : v.isContainer = true

theorem Canonical.text (s : String) : Canonical (.text s) := .scalar rfl

theorem canonical_of_texts {pairs : List (String × Value)}
    (h : ∀ p ∈ pairs, ∃ s, p.2 = .text s) : ∀ p ∈ pairs, p.2.Canonical := by
  intro p hp
  obtain ⟨s, hs⟩ := h p hp
  exact hs ▸ .text s

theorem Canonical.items {items : List Value} (h : Canonical (.list items)) :
    ∀ v ∈ items, v.Canonical := by
  cases h with
  | scalar h => cases h
  | list h => exact h

end Value

namespace Fields

/-- The entries of a canonical record. -/
structure Canonical (fields : Fields) : Prop where
  names : ∀ e ∈ fields, ∃ n, e.1 = .text n
  distinct : (fields.map (·.1)).Nodup
  values : ∀ e ∈ fields, e.2.Canonical

theorem Canonical.record {fields : Fields} (h : fields.Canonical) :
    (Value.record fields).Canonical :=
  .record h.names h.distinct h.values

theorem canonical_of_record {fields : Fields} (h : (Value.record fields).Canonical) :
    fields.Canonical := by
  cases h with
  | scalar h => cases h
  | record names distinct h => exact ⟨names, distinct, h⟩

theorem Canonical.isNormal {fields : Fields} (h : fields.Canonical) :
    (Value.record fields).IsNormal := ⟨h.record, rfl⟩

theorem canonical_nil : Canonical [] := ⟨by simp, by simp, by simp⟩

theorem mem_put {name : String} {v : Value} {fields : Fields} {e : Key × Value}
    (h : e ∈ put name v fields) : e = (.text name, v) ∨ e ∈ fields := by
  induction fields with
  | nil => exact .inl (List.mem_singleton.mp h)
  | cons first rest ih =>
    obtain ⟨k, w⟩ := first
    cases k with
    | text n =>
      rw [put] at h
      split at h
      · rename_i hn
        subst hn
        rcases List.mem_cons.mp h with h | h
        · exact .inl h
        · exact .inr (List.mem_cons_of_mem _ h)
      · rcases List.mem_cons.mp h with h | h
        · exact .inr (h ▸ List.mem_cons_self ..)
        · exact (ih h).imp_right (List.mem_cons_of_mem _)
    | _ =>
      rcases List.mem_cons.mp h with h | h
      · exact .inr (h ▸ List.mem_cons_self ..)
      · exact (ih h).imp_right (List.mem_cons_of_mem _)

theorem canonical_texts (pairs : List (String × String)) (h : (pairs.map (·.1)).Nodup) :
    Canonical (pairs.map fun p => (.text p.1, .text p.2)) where
  names := by
    intro e he
    obtain ⟨p, -, rfl⟩ := List.mem_map.mp he
    exact ⟨p.1, rfl⟩
  distinct := by
    have hkeys : ((pairs.map (·.1)).map Key.text).Nodup :=
      List.Pairwise.map _ (fun _ _ hne he => hne (Key.text.inj he)) h
    rwa [List.map_map] at hkeys ⊢
  values := by
    intro e he
    obtain ⟨p, -, rfl⟩ := List.mem_map.mp he
    exact .text p.2

variable {fields : Fields} {name : String} {v : Value}

theorem Canonical.put (h : fields.Canonical) (hv : v.Canonical) :
    (fields.put name v).Canonical where
  names := by
    intro e he
    rcases mem_put he with rfl | he
    · exact ⟨name, rfl⟩
    · exact h.names e he
  distinct := nodup_names_put h.distinct
  values := by
    intro e he
    rcases mem_put he with rfl | he
    · exact hv
    · exact h.values e he

theorem Canonical.put_texts (h : fields.Canonical) (names : List String) (s : String) :
    (names.foldl (fun fields n => Fields.put n (.text s) fields) fields).Canonical := by
  induction names generalizing fields with
  | nil => exact h
  | cons n rest ih => exact ih (h.put (.text s))

theorem Canonical.get? (h : fields.Canonical) (hv : fields.get? name = some v) : v.Canonical :=
  h.values _ (mem_of_get? hv)

theorem Canonical.contribute (h : fields.Canonical) (hv : v.Canonical) :
    (fields.contribute name v).Canonical := by
  unfold Fields.contribute
  split
  · exact h.put hv
  · rename_i items hitems
    refine h.put (.list ?_)
    simpa [or_imp, forall_and] using ⟨(h.get? hitems).items, hv⟩
  · rename_i old _ hold
    refine h.put (.list ?_)
    simpa using ⟨h.get? hold, hv⟩

theorem Canonical.gather (h : fields.Canonical) {contributions : List (String × Value)}
    (hc : ∀ c ∈ contributions, c.2.Canonical) : (fields.gather contributions).Canonical := by
  unfold Fields.gather
  induction contributions generalizing fields with
  | nil => exact h
  | cons c rest ih =>
    exact ih (h.contribute (hc c (List.mem_cons_self ..)))
      fun e he => hc e (List.mem_cons_of_mem _ he)

end Fields

namespace Value

variable {v w : Value} {step : Step}

theorem Canonical.at? (h : v.Canonical) (hw : v.at? step = some w) : w.Canonical := by
  unfold Value.at? at hw
  split at hw
  · exact (Fields.canonical_of_record h).get? hw
  · exact h.items w (List.mem_of_getElem? hw)
  · cases h with
    | scalar h => cases h
  · obtain ⟨c, -, rfl⟩ := Option.map_eq_some_iff.mp hw
    exact .text _
  · cases hw

theorem Canonical.setItem {items : List Value} (h : ∀ v ∈ items, v.Canonical) (i : Nat)
    (hv : v.Canonical) : ∀ w ∈ setItem items i v, w.Canonical := by
  intro w hw
  rcases List.mem_or_eq_of_mem_set hw with hw | rfl
  · rcases List.mem_append.mp hw with hw | hw
    · exact h w hw
    · rw [(List.mem_replicate.mp hw).2]
      exact .scalar rfl
  · exact hv

theorem Canonical.setAt (h : v.Canonical) (hw : w.Canonical) : (v.setAt step w).Canonical := by
  unfold Value.setAt
  split
  · exact ((Fields.canonical_of_record h).put hw).record
  · exact .list (Canonical.setItem h.items _ hw)
  · cases h with
    | scalar h => cases h
  · exact h

theorem Canonical.storeLast (h : v.Canonical) (listed : Bool) (hw : w.Canonical) :
    (v.storeLast step listed w).container.Canonical := by
  unfold Value.storeLast
  split
  · rename_i items hitems
    refine h.setAt (.list ?_)
    simpa [or_imp, forall_and] using ⟨(h.at? hitems).items, hw⟩
  · split
    · exact h
    · split
      · split
        · exact h.setAt (.list (by simpa using hw))
        · exact h.setAt hw
      · split
        · exact h.setAt (.list (by simpa using hw))
        · exact h.setAt hw
      · rename_i old _ hold
        refine h.setAt (.list ?_)
        simpa using ⟨h.at? hold, hw⟩

theorem canonical_fresh (next : String) : (fresh next).Canonical := by
  unfold fresh
  split
  · exact .list (by simp)
  · exact Fields.canonical_nil.record

theorem Canonical.store (h : v.Canonical) (parts : List String) (listed : Bool)
    (hw : w.Canonical) : (v.store parts listed w).container.Canonical := by
  induction parts generalizing v with
  | nil => exact h
  | cons part rest ih =>
    unfold Value.store
    split
    · exact h
    · exact h
    · split
      · exact h.storeLast listed hw
      · split
        · split
          · exact h
          · exact h.setAt (ih (canonical_fresh _))
        · split
          · exact h
          · exact h.setAt (ih (canonical_fresh _))
        · rename_i inner _ hinner
          split
          · exact h.setAt (ih (h.at? hinner))
          · exact h

theorem isContainer_eq_kindName (v : Value) :
    v.isContainer = (v.kindName == "dict" || v.kindName == "list") := by
  cases v with
  | date t =>
    rw [kindName]
    split <;> rfl
  | _ => rfl

theorem isContainer_store (v w : Value) (parts : List String) (listed : Bool) :
    (v.store parts listed w).container.isContainer = v.isContainer := by
  rw [isContainer_eq_kindName, kindName_store, ← isContainer_eq_kindName]

theorem IsNormal.store (h : v.IsNormal) (parts : List String) (listed : Bool)
    (hw : w.Canonical) : (v.store parts listed w).container.IsNormal where
  canonical := h.canonical.store parts listed hw
  isContainer := (isContainer_store v w parts listed).trans h.isContainer

end Value

theorem Folding.run_isNormal {pairs : List (String × Value)} (hp : ∀ p ∈ pairs, p.2.Canonical)
    {f : Folding} (hf : f.record.IsNormal) : (f.run pairs).1.record.IsNormal := by
  induction pairs generalizing f with
  | nil => exact hf
  | cons p rest ih =>
    obtain ⟨name, v⟩ := p
    have hstore := hf.store (Path.ofText name).parts (Path.ofText name).isListed
      (hp _ (List.mem_cons_self ..))
    unfold Folding.run
    dsimp only
    split
    · exact ih (fun q hq => hp q (List.mem_cons_of_mem _ hq)) hstore
    · exact hstore

theorem foldPairs_isNormal {pairs : List (String × Value)} (hp : ∀ p ∈ pairs, p.2.Canonical)
    {v : Value} (h : foldPairs pairs = .ok v) : v.IsNormal := by
  have hrun := Folding.run_isNormal hp (f := {}) Fields.canonical_nil.isNormal
  unfold foldPairs at h
  split at h
  · rename_i f hf
    cases h
    rw [hf] at hrun
    exact hrun
  · cases h

namespace Dialect

variable {d : Dialect}

theorem identity_canonical {e : Element} {fields : Fields} (h : d.identity e = .ok fields) :
    fields.Canonical := by
  unfold identity at h
  dsimp only at h
  split at h
  · obtain ⟨type, htype, h⟩ := bind_eq_ok.mp h
    cases htype
    cases h
    split
    · exact Fields.canonical_nil
    · exact Fields.canonical_texts [(idKey, _)] (by simp)
  · obtain ⟨⟨context, name⟩, -, h⟩ := bind_eq_ok.mp h
    obtain ⟨type, htype, h⟩ := bind_eq_ok.mp h
    cases htype
    cases h
    split
    · have hkeys : [typeKey, contextKey].Nodup := by decide
      exact Fields.canonical_texts [(typeKey, name), (contextKey, context)] hkeys
    · have hkeys : [typeKey, contextKey, idKey].Nodup := by decide
      exact Fields.canonical_texts [(typeKey, name), (contextKey, context), (idKey, _)] hkeys

mutual
theorem contributions_canonical (e : Element) {cs : List (String × Value)}
    (h : d.contributions e = .ok cs) : ∀ c ∈ cs, c.2.Canonical := by
  match e with
  | .mk tag attributes text children =>
    rw [contributions] at h
    split at h
    · cases h
      simp
    · dsimp only at h
      split at h
      · split at h
        · cases h
          simp
        · obtain ⟨identity, hidentity, h⟩ := bind_eq_ok.mp h
          obtain ⟨below, hbelow, h⟩ := bind_eq_ok.mp h
          cases h
          have hcs := contributionsBelow_canonical children hbelow
          intro c hc
          obtain ⟨n, -, rfl⟩ := List.mem_map.mp hc
          exact ((identity_canonical hidentity).gather hcs).record
      · obtain ⟨below, hbelow, h⟩ := bind_eq_ok.mp h
        cases h
        intro c hc
        rcases List.mem_append.mp hc with hc | hc
        · obtain ⟨n, -, rfl⟩ := List.mem_map.mp hc
          exact .text _
        · exact contributionsBelow_canonical children hbelow c hc

theorem contributionsBelow_canonical (children : List Child) {cs : List (String × Value)}
    (h : d.contributionsBelow children = .ok cs) : ∀ c ∈ cs, c.2.Canonical := by
  match children with
  | [] =>
    rw [contributionsBelow] at h
    cases h
    simp
  | (e, tail) :: rest =>
    rw [contributionsBelow] at h
    obtain ⟨first, hfirst, h⟩ := bind_eq_ok.mp h
    obtain ⟨others, hothers, h⟩ := bind_eq_ok.mp h
    cases h
    intro c hc
    rcases List.mem_append.mp hc with hc | hc
    · exact contributions_canonical e hfirst c hc
    · exact contributionsBelow_canonical rest hothers c hc
end

theorem extract_canonical {e : Element} {fields : Fields} (h : d.extract e = .ok fields) :
    fields.Canonical := by
  obtain ⟨identity, hidentity, h⟩ := bind_eq_ok.mp h
  obtain ⟨below, hbelow, h⟩ := bind_eq_ok.mp h
  cases h
  exact (identity_canonical hidentity).gather (contributionsBelow_canonical e.children hbelow)

theorem exists_of_mapM_extract {es : List Element} {records : List Fields}
    (h : es.mapM d.extract = .ok records) :
    ∀ fields ∈ records, ∃ e, d.extract e = .ok fields := by
  induction es generalizing records with
  | nil =>
    cases h
    simp
  | cons e rest ih =>
    rw [List.mapM_cons] at h
    obtain ⟨first, hfirst, h⟩ := bind_eq_ok.mp h
    obtain ⟨others, hothers, h⟩ := bind_eq_ok.mp h
    cases h
    intro fields hfields
    rcases List.mem_cons.mp hfields with rfl | hfields
    · exact ⟨e, hfirst⟩
    · exact ih hothers fields hfields

theorem extractAll_isNormal {es : List Element} {v : Value} (h : d.extractAll es = .ok v) :
    v.IsNormal := by
  obtain ⟨records, hrecords, h⟩ := bind_eq_ok.mp h
  cases h
  refine ⟨.list fun v hv => ?_, rfl⟩
  obtain ⟨fields, hfields, rfl⟩ := List.mem_map.mp hv
  obtain ⟨e, he⟩ := exists_of_mapM_extract hrecords fields hfields
  exact (extract_canonical he).record

theorem ofElement_isNormal {e : Element} {v : Value} (h : d.ofElement e = .ok v) :
    v.IsNormal := by
  unfold ofElement at h
  split at h
  · refine foldPairs_isNormal (fun p hp => ?_) h
    obtain ⟨q, -, rfl⟩ := List.mem_map.mp hp
    exact .text q.2
  · exact extractAll_isNormal h
  · exact extractAll_isNormal h
  · dsimp only at h
    split at h
    · obtain ⟨fields, hfields, rfl⟩ := map_eq_ok.mp h
      exact (extract_canonical hfields).isNormal
    · cases h
      exact (Fields.canonical_nil.put_texts ..).isNormal

theorem normalizeItems_canonical {items results : List Value}
    (h : ∀ v ∈ items, ∀ w, d.normalizeInner v = .ok w → w.Canonical)
    (hr : d.normalizeItems items = .ok results) : ∀ w ∈ results, w.Canonical := by
  induction items generalizing results with
  | nil =>
    rw [normalizeItems] at hr
    cases hr
    simp
  | cons v rest ih =>
    rw [normalizeItems] at hr
    obtain ⟨first, hfirst, hr⟩ := bind_eq_ok.mp hr
    obtain ⟨others, hothers, hr⟩ := bind_eq_ok.mp hr
    cases hr
    have hothers := ih (fun w hw => h w (List.mem_cons_of_mem _ hw)) hothers
    intro w hw
    rcases List.mem_cons.mp hw with rfl | hw
    · exact h v (List.mem_cons_self ..) _ hfirst
    · exact hothers w hw

theorem normalizeFields_canonical {done fields results : Fields} (hd : done.Canonical)
    (h : ∀ e ∈ fields, ∀ w, d.normalizeInner e.2 = .ok w → w.Canonical)
    (hr : d.normalizeFields done fields = .ok results) : results.Canonical := by
  induction fields generalizing done with
  | nil =>
    rw [normalizeFields] at hr
    cases hr
    exact hd
  | cons e rest ih =>
    rw [normalizeFields] at hr
    obtain ⟨name, -, hr⟩ := bind_eq_ok.mp hr
    obtain ⟨v, hv, hr⟩ := bind_eq_ok.mp hr
    have hfirst := h e (List.mem_cons_self ..) v hv
    exact ih (hd.put hfirst) (fun e he => h e (List.mem_cons_of_mem _ he)) hr

theorem normalizeInner_scalar {v : Value} (h : v.isScalar = true) : d.normalizeInner v = .ok v := by
  cases v <;> first | rfl | cases h

theorem normalizeInner_canonical {v w : Value} (hs : v.IsSource)
    (h : d.normalizeInner v = .ok w) : w.Canonical := by
  induction hs generalizing w with
  | scalar hv =>
    cases (normalizeInner_scalar hv).symm.trans h
    exact .scalar hv
  | list _ ih | tuple _ ih =>
    rw [normalizeInner] at h
    obtain ⟨results, hresults, rfl⟩ := map_eq_ok.mp h
    exact .list (normalizeItems_canonical ih hresults)
  | record _ ih =>
    rw [normalizeInner] at h
    obtain ⟨results, hresults, rfl⟩ := map_eq_ok.mp h
    exact (normalizeFields_canonical Fields.canonical_nil ih hresults).record
  | element e => exact (ofElement_isNormal h).canonical
  | document page => exact (extractAll_isNormal h).canonical
  | form hp => exact (foldPairs_isNormal (Value.canonical_of_texts hp) h).canonical

/-- Entries that are normal already stay, behind those before. -/
theorem normalizeFields_eq_ok {done fields : Fields} (names : ∀ e ∈ fields, ∃ n, e.1 = .text n)
    (distinct : ((done ++ fields).map (·.1)).Nodup)
    (h : ∀ e ∈ fields, d.normalizeInner e.2 = .ok e.2) :
    d.normalizeFields done fields = .ok (done ++ fields) := by
  induction fields generalizing done with
  | nil => rw [normalizeFields, List.append_nil]
  | cons e rest ih =>
    obtain ⟨k, v⟩ := e
    obtain ⟨n, rfl⟩ := names _ (List.mem_cons_self ..)
    have hv : d.normalizeInner v = .ok v := h _ (List.mem_cons_self ..)
    have hsplit : done ++ (.text n, v) :: rest = done ++ [(.text n, v)] ++ rest := by simp
    have hput : done.put n v = done ++ [(.text n, v)] := by
      have hnew : .text n ∉ done.map (·.1) := by
        rw [List.map_append, List.map_cons] at distinct
        exact fun hmem =>
          (List.nodup_append.mp distinct).2.2 _ hmem _ (List.mem_cons_self ..) rfl
      have hnone : done.get? n = none := by
        rwa [← Fields.get?_isSome_iff, Option.not_isSome_iff_eq_none] at hnew
      simpa [Fields.put] using Fields.put_append hnone [] v
    rw [normalizeFields, Key.shown_text, hv]
    change d.normalizeFields (done.put n v) rest = _
    rw [hput, hsplit]
    exact ih (fun e he => names e (List.mem_cons_of_mem _ he)) (hsplit ▸ distinct)
      fun e he => h e (List.mem_cons_of_mem _ he)

theorem normalizeInner_of_canonical {v : Value} (h : v.Canonical) : d.normalizeInner v = .ok v := by
  induction h with
  | scalar h => exact normalizeInner_scalar h
  | @list items _ ih =>
    have hitems : d.normalizeItems items = .ok (items.map id) := normalizeItems_eq_ok ih
    rw [normalizeInner, hitems, List.map_id]
    rfl
  | @record fields names distinct _ ih =>
    have hfields : d.normalizeFields [] fields = .ok fields :=
      normalizeFields_eq_ok names distinct ih
    rw [normalizeInner, hfields]
    rfl

theorem normalize_of_isContainer {v : Value} (h : v.isContainer = true) :
    d.normalize v = d.normalizeInner v := by
  cases v <;> first | rfl | cases h

theorem normalizeInner_isContainer {v w : Value} (hv : v.isScalar = false) (hs : v.IsSource)
    (h : d.normalizeInner v = .ok w) : w.isContainer = true := by
  cases hs with
  | scalar hscalar => cases hv.symm.trans hscalar
  | list _ | tuple _ | record _ =>
    rw [normalizeInner] at h
    obtain ⟨results, -, rfl⟩ := map_eq_ok.mp h
    rfl
  | element e => exact (ofElement_isNormal h).isContainer
  | document page => exact (extractAll_isNormal h).isContainer
  | form hp => exact (foldPairs_isNormal (Value.canonical_of_texts hp) h).isContainer

/-- What a source is normalized to is a list or a record of canonical values, and stays as it is
when it is normalized again. -/
theorem normalize_isNormal (d : Dialect) {source v : Value} (hs : source.IsSource)
    (h : d.normalize source = .ok v) : v.IsNormal ∧ d.normalize v = .ok v := by
  have hnormal : v.IsNormal := by
    cases hscalar : source.isScalar with
    | true =>
      obtain rfl : v = .record [] := by
        cases source <;> first | cases hscalar; done | (cases h; rfl)
      exact Fields.canonical_nil.isNormal
    | false =>
      have hinner : d.normalizeInner source = .ok v := by
        cases hs <;> first | exact h | (rename_i hs; cases hscalar.symm.trans hs)
      exact ⟨normalizeInner_canonical hs hinner, normalizeInner_isContainer hscalar hs hinner⟩
  refine ⟨hnormal, ?_⟩
  rw [normalize_of_isContainer hnormal.isContainer]
  exact normalizeInner_of_canonical hnormal.canonical

theorem normalize_isNormal_nested :
    let item := Element.mk (.named "li") [("itemscope", "")] ""
      [(.mk (.named "b") [("itemprop", "name")] "Ada" [], "")]
    let source := Value.record [(.int 1, .element (.mk (.named "ul") [] "" [(item, "")])),
      (.text "pages", .tuple [.none, .form [("tags[]", .text "x")]])]
    let v := Value.record [(.text "1", .list [.record [(.text "name", .text "Ada")]]),
      (.text "pages", .list [.none, .record [(.text "tags", .list [.text "x"])]])]
    source.IsSource ∧ ({} : Dialect).normalize source = .ok v ∧
      v.IsNormal ∧ ({} : Dialect).normalize v = .ok v := by
  intro item source v
  have hpages : (Value.tuple [.none, .form [("tags[]", .text "x")]]).IsSource := by
    refine .tuple fun w hw => ?_
    simp only [List.mem_cons, List.not_mem_nil, or_false] at hw
    rcases hw with rfl | rfl
    · exact .scalar rfl
    · exact .form (by simp)
  have hs : source.IsSource := by
    refine .record fun e he => ?_
    simp only [List.mem_cons, List.not_mem_nil, or_false] at he
    rcases he with rfl | rfl
    · exact .element _
    · exact hpages
  have hkey : (Key.int 1).shown = .ok "1" := Key.shown_int (by decide +kernel)
  have h : ({} : Dialect).normalize source = .ok v := by
    rw [normalize_of_isContainer rfl, normalizeInner, normalizeFields, hkey]
    rfl
  exact ⟨hs, h, normalize_isNormal {} hs h⟩

end Dialect
end Microdata
