import Mathlib.Tactic.Choose
import Microdata.Proofs.Binding.Order
import Microdata.Template.Render
set_option autoImplicit false

namespace Microdata

namespace Dialect

variable {d : Dialect} {items records : List Value}

theorem exists_of_normalizeItems (h : d.normalizeItems items = .ok records) :
    ∀ v ∈ items, ∃ n, d.normalizeInner v = .ok n := by
  induction items generalizing records with
  | nil =>
    intro v hv
    cases hv
  | cons w rest ih =>
    rw [normalizeItems] at h
    obtain ⟨first, hw, h⟩ := bind_eq_ok.mp h
    obtain ⟨others, hrest, -⟩ := bind_eq_ok.mp h
    intro v hv
    obtain rfl | hv := List.mem_cons.mp hv
    · exact ⟨first, hw⟩
    · exact ih hrest v hv

end Dialect

theorem Pattern.mem_of_rootFor? {separator : String} {record : Value} {roots : List Pattern}
    {root : Pattern} (h : rootFor? separator record roots = some root) : root ∈ roots := by
  obtain ⟨i, -, hi⟩ := Option.bind_eq_some_iff.mp h
  exact List.mem_of_getElem? hi

namespace Template

variable {t : Template} {batch batch' records items items' : List Value} {base : String}

/-- No element of the template has a filter. -/
def Unfiltered (t : Template) : Prop :=
  ∀ roots, t.roots = .ok roots → ∀ root ∈ roots, ∀ q ∈ root.walk, q.shape.filter = none

theorem textId?_asRecord (v : Value) : (asRecord v).textId? = v.textId? := by
  cases v <;> rfl

theorem distinctIds_asRecord (h : DistinctIds records) : DistinctIds (records.map asRecord) := by
  have hids : Value.textId? ∘ asRecord = Value.textId? := funext textId?_asRecord
  rw [DistinctIds, List.filterMap_map, hids]
  exact h

theorem renderRecord_perm (hfilter : t.Unfiltered) (h : DistinctIds batch)
    (hperm : batch'.Perm batch) (record : Value) :
    t.renderRecord record batch' base = t.renderRecord record batch base := by
  unfold renderRecord
  split
  · rfl
  · rename_i roots hroots
    split
    · rfl
    · rename_i root hroot
      have hwalk := hfilter roots hroots root (Pattern.mem_of_rootFor? hroot)
      have hstart : Context.Reordered { Context.ofRoot record batch base with current := record }
          { Context.ofRoot record batch' base with current := record } :=
        { current := rfl
          base := rfl
          depth := rfl
          ancestors := rfl
          batch := hperm
          ids := h }
      simp only [Renderer.render, Renderer.renderAt_perm _ hwalk hstart]

theorem exists_of_renderRecords {output : List Element × List Diagnostic}
    (h : t.renderRecords batch base records = .ok output) :
    ∀ v ∈ records, ∃ part, t.renderRecord v batch base = .ok part := by
  induction records generalizing output with
  | nil =>
    intro v hv
    cases hv
  | cons w rest ih =>
    rw [renderRecords] at h
    obtain ⟨first, hw, h⟩ := bind_eq_ok.mp h
    obtain ⟨others, hrest, -⟩ := bind_eq_ok.mp h
    intro v hv
    obtain rfl | hv := List.mem_cons.mp hv
    · exact ⟨first, hw⟩
    · exact ih hrest v hv

theorem renderRecords_map_eq_ok {record : Value → Value}
    {part : Value → List Element × List Diagnostic}
    (h : ∀ v ∈ items, t.renderRecord (record v) batch base = .ok (part v)) :
    t.renderRecords batch base (items.map record) =
      .ok (items.flatMap fun v => (part v).1, items.flatMap fun v => (part v).2) := by
  induction items with
  | nil => rfl
  | cons v rest ih =>
    have hv := h v (List.mem_cons_self ..)
    have hrest := ih fun w hw => h w (List.mem_cons_of_mem v hw)
    rw [List.map_cons, renderRecords, hv, hrest]
    rfl

theorem render_list (t : Template) (items : List Value) :
    t.render (.list items) =
      ((t.dialect.normalizeItems items).mapError RenderError.fault >>= fun records =>
        t.renderRecords (records.map asRecord) t.config.base (records.map asRecord) >>=
          fun result => .ok (.batch result.1, result.2)) := by
  rw [render, Dialect.normalize, Dialect.normalizeInner]
  · cases t.dialect.normalizeItems items <;> rfl
  all_goals simp

/-- What each item of a list contributes to its rendering: it has a normal form, whose record is
rendered in the batch of them all, and what that gives stands one behind the other. -/
structure Contributes (t : Template) (normal : Value → Value)
    (part : Value → List Element × List Diagnostic) (items : List Value) : Prop where
  normalized : ∀ v ∈ items, t.dialect.normalizeInner v = .ok (normal v)
  rendered : ∀ v ∈ items, t.renderRecord (asRecord (normal v)) ((items.map normal).map asRecord)
    t.config.base = .ok (part v)
  output : t.render (.list items) =
    .ok (.batch (items.flatMap fun v => (part v).1), items.flatMap fun v => (part v).2)

theorem contributes_of_parts {normal : Value → Value}
    {part : Value → List Element × List Diagnostic}
    (hnormal : ∀ v ∈ items, t.dialect.normalizeInner v = .ok (normal v))
    (hpart : ∀ v ∈ items, t.renderRecord (asRecord (normal v)) ((items.map normal).map asRecord)
      t.config.base = .ok (part v)) : t.Contributes normal part items where
  normalized := hnormal
  rendered := hpart
  output := by
    rw [render_list, Dialect.normalizeItems_eq_ok hnormal]
    have hrecords := renderRecords_map_eq_ok hpart
    rw [← Function.comp_def asRecord, ← List.map_map] at hrecords
    change (t.renderRecords _ t.config.base ((items.map normal).map asRecord) >>= _) = _
    rw [hrecords]
    rfl

theorem exists_contributes {output : Output} {ds : List Diagnostic}
    (h : t.render (.list items) = .ok (output, ds)) :
    ∃ normal part, t.Contributes normal part items := by
  rw [render_list] at h
  obtain ⟨records, hrecords, h⟩ := bind_eq_ok.mp h
  obtain ⟨result, hresult, -⟩ := bind_eq_ok.mp h
  have hitems := mapError_eq_ok.mp hrecords
  have hnormal := Dialect.exists_of_normalizeItems hitems
  choose! normal hnormal using hnormal
  rw [Dialect.normalizeItems_eq_ok hnormal] at hitems
  obtain rfl := Except.ok.inj hitems
  have hparts := exists_of_renderRecords hresult
  have hparts : ∀ v ∈ items, ∃ part, t.renderRecord (asRecord (normal v))
      ((items.map normal).map asRecord) t.config.base = .ok part :=
    fun v hv => hparts _ (List.mem_map_of_mem (List.mem_map_of_mem hv))
  choose! part hpart using hparts
  exact ⟨normal, part, contributes_of_parts hnormal hpart⟩

/-- Without filters and with identifiers that differ, every record contributes the same in every
order of the list. -/
theorem render_perm (t : Template) (hfilter : t.Unfiltered) {items items' : List Value}
    (hperm : items'.Perm items)
    (hid : ∀ records, t.dialect.normalizeItems items = .ok records → DistinctIds records)
    {output : Output} {ds : List Diagnostic} (h : t.render (.list items) = .ok (output, ds)) :
    ∃ normal part, t.Contributes normal part items ∧ t.Contributes normal part items' := by
  obtain ⟨normal, part, hitems⟩ := exists_contributes h
  refine ⟨normal, part, hitems, contributes_of_parts (fun v hv => ?_) (fun v hv => ?_)⟩
  · exact hitems.normalized v (hperm.mem_iff.mp hv)
  · have hrecords := hid _ (Dialect.normalizeItems_eq_ok hitems.normalized)
    have hbatch := (hperm.map normal).map asRecord
    rw [renderRecord_perm hfilter (distinctIds_asRecord hrecords) hbatch]
    exact hitems.rendered v (hperm.mem_iff.mp hv)

def card : Template where
  element := .mk (.named "template") [] ""
    [(.mk (.named "p") [] ""
      [(.mk (.named "a") [("itemprop", "friend"), ("itemscope", "")] ""
        [(.mk (.named "b") [("itemprop", "name")] "" [], "")], "")], "")]

def ann : Value := .record [(.text "@id", .text "ann"), (.text "name", .text "Ann")]

def bob : Value := .record [(.text "@id", .text "bob"), (.text "friend", .text "#ann")]

def blankCard : Element :=
  .mk (.named "p") [] ""
    [(.mk (.named "a") [("itemprop", "friend"), ("itemscope", "")] ""
      [(.mk (.named "b") [("itemprop", "name")] "" [], "")], "")]

def filledCard : Element :=
  .mk (.named "p") [] ""
    [(.mk (.named "a") [("itemprop", "friend"), ("itemscope", ""), ("itemid", "#ann")] ""
      [(.mk (.named "b") [("itemprop", "name")] "Ann" [], "")], "")]

theorem render_perm_cards :
    card.Unfiltered ∧ [bob, .text "none", ann].Perm [ann, bob, .text "none"] ∧
      (∀ records, card.dialect.normalizeItems [ann, bob, .text "none"] = .ok records →
        DistinctIds records) ∧
      card.render (.list [ann, bob, .text "none"]) =
        .ok (.batch [blankCard, filledCard, blankCard], []) ∧
      ∃ normal part, card.Contributes normal part [ann, bob, .text "none"] ∧
        card.Contributes normal part [bob, .text "none", ann] := by
  have hfilter : card.Unfiltered := by
    intro roots hroots
    obtain rfl := Except.ok.inj hroots
    decide
  have hperm : [bob, .text "none", ann].Perm [ann, bob, .text "none"] :=
    @List.perm_append_comm Value [bob, .text "none"] [ann]
  have hid : ∀ records, card.dialect.normalizeItems [ann, bob, .text "none"] = .ok records →
      DistinctIds records := by
    intro records hrecords
    obtain rfl := Except.ok.inj hrecords
    decide
  have hrender : card.render (.list [ann, bob, .text "none"]) =
      .ok (.batch [blankCard, filledCard, blankCard], []) := rfl
  exact ⟨hfilter, hperm, hid, hrender, render_perm card hfilter hperm hid hrender⟩

end Template
end Microdata
