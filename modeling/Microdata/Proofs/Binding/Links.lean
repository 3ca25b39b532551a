import Microdata.Proofs.Binding.Order
set_option autoImplicit false

/-!
Links between the records of a batch, followed and looked for. What follows a reference compares the
identifier of a record with a text; what looks for the records that refer to another takes the text
of its identifier. Main statement: `refersTo_and_resolve?`, the two agree on every identifier that
is a text. A number is referred to by its text, and a record that has it is not found.
-/

namespace Microdata

theorem Value.identifier?_eq_some_iff {v id : Value} :
    v.identifier? = some id ↔ v.get? idKey = some id ∧ id.isPresent = true := by
  unfold identifier?
  cases v.get? idKey with
  | none => simp
  | some w =>
    dsimp only
    split
    · rename_i h
      simp only [Option.some.injEq]
      exact ⟨fun he => ⟨he, he ▸ h⟩, And.left⟩
    · rename_i h
      refine ⟨nofun, fun ⟨he, hid⟩ => ?_⟩
      cases he
      exact absurd hid h

/-- A text with anything in it is the identifier of the same records in both readings. -/
theorem Value.identifier?_text_iff {v : Value} {s : String} :
    v.identifier? = some (.text s) ↔ v.textId? = some s ∧ s ≠ "" := by
  rw [identifier?_eq_some_iff, ← Marker.identifies_iff, Marker.identifies]
  have hpresent : (Value.text s).isPresent = true ↔ s ≠ "" := bne_iff_ne
  rw [hpresent]
  cases v.get? idKey with
  | none => simp
  | some w =>
    cases w with
    | text t => simp
    | _ => simp

namespace Marker

def link (m : Marker) (id : Value) : Value := .text (m.text ++ id.display)

/-- Following a reference ends at a record of the batch with a text for identifier. -/
def Finds (m : Marker) (reference : Value) (batch : List Value) (s : String) : Prop :=
  ∃ fields, m.resolve? reference batch = some fields ∧ .record fields ∈ batch ∧
    (Value.record fields).identifier? = some (.text s)

variable {m : Marker} {batch : List Value}

theorem target?_eq_some_iff {v : Value} {s : String} :
    m.target? v = some s ↔ v = .text (m.text ++ s) ∧ s ≠ "" := by
  cases v with
  | text t =>
    rw [target?]
    constructor
    · intro h
      split at h
      · rename_i hc
        obtain ⟨hlength, hprefix⟩ := Bool.and_eq_true_iff.mp hc
        obtain ⟨rest, hrest⟩ := List.isPrefixOf_iff_prefix.mp hprefix
        have hs : m.strip t = s := Option.some.inj h
        have hstrip : s.toList = rest := by
          rw [← hs, strip, ← hrest, String.toList_ofList, ← String.length_toList, List.drop_left]
        have ht : t = m.text ++ s := by
          rw [← String.toList_inj, String.toList_append, hstrip, hrest]
        refine ⟨congrArg Value.text ht, ?_⟩
        rintro rfl
        simp [ht] at hlength
      · cases h
    · rintro ⟨ht, hs⟩
      obtain rfl := Value.text.inj ht
      have hlength : m.text.length < (m.text ++ s).length := by
        have hpos : 0 < s.length := Nat.pos_of_ne_zero fun h => hs (String.length_eq_zero_iff.mp h)
        rw [String.length_append]
        omega
      have hprefix : m.text.toList.isPrefixOf (m.text ++ s).toList = true := by
        rw [List.isPrefixOf_iff_prefix, String.toList_append]
        exact List.prefix_append _ _
      have hstrip : m.strip (m.text ++ s) = s := by
        rw [strip, String.toList_append, ← String.length_toList, List.drop_left,
          String.ofList_toList]
      rw [if_pos (Bool.and_eq_true_iff.mpr ⟨decide_eq_true hlength, hprefix⟩), hstrip]
  | _ => simp [target?]

theorem refersTo_link {id : Value} (h : id.isPresent = true) :
    m.refersTo (m.link id) id = true := by
  simp [refersTo, link, h]

theorem exists_of_resolve? {v : Value} {fields : Fields} (h : m.resolve? v batch = some fields) :
    ∃ s, v = m.link (.text s) ∧ (Value.record fields).identifier? = some (.text s) := by
  unfold resolve? at h
  split at h
  · cases h
  · rename_i s htarget
    obtain ⟨hv, hs⟩ := target?_eq_some_iff.mp htarget
    obtain ⟨w, hw, hfields⟩ := Option.map_eq_some_iff.mp h
    have hid := identifies_iff.mp (List.find?_some hw)
    have hget : (Value.record fields).textId? = w.textId? := by
      simp only [Value.textId?, Value.get?, ← hfields, Value.fields]
    exact ⟨s, hv, Value.identifier?_text_iff.mpr ⟨hget.trans hid, hs⟩⟩

theorem isReference_of_resolve? {v : Value} {fields : Fields}
    (h : m.resolve? v batch = some fields) : m.isReference v = true := by
  unfold resolve? at h
  split at h
  · cases h
  · rename_i s htarget
    rw [isReference, htarget]
    rfl

theorem finds_iff {s : String} :
    m.Finds (m.link (.text s)) batch s ↔ ∃ v ∈ batch, v.identifier? = some (.text s) := by
  constructor
  · rintro ⟨fields, -, hmem, hid⟩
    exact ⟨_, hmem, hid⟩
  · rintro ⟨v, hv, hid⟩
    obtain ⟨htext, hs⟩ := Value.identifier?_text_iff.mp hid
    have htarget : m.target? (m.link (.text s)) = some s := target?_eq_some_iff.mpr ⟨rfl, hs⟩
    obtain ⟨w, hw⟩ : ∃ w, batch.find? (identifies s) = some w :=
      Option.isSome_iff_exists.mp (List.find?_isSome.mpr ⟨v, hv, identifies_iff.mpr htext⟩)
    have hresolve : m.resolve? (m.link (.text s)) batch = some w.fields := by
      simp only [resolve?, htarget, hw, Option.map_some]
    obtain ⟨t, ht, hfound⟩ := exists_of_resolve? hresolve
    have hst : m.text ++ s = m.text ++ t := Value.text.inj ht
    rw [← String.toList_inj, String.toList_append, String.toList_append] at hst
    obtain rfl : s = t := String.toList_inj.mp (List.append_cancel_left hst)
    exact ⟨w.fields, hresolve, record_mem_of_resolve? hresolve, hfound⟩

/-- Following a reference and looking for what refers to a record agree: the reference to the
identifier of a record refers to it, and what is found by following a reference is referred to by
it. The record of an identifier that is a text is found, or another one in front of it that has the
same; any other identifier is found only if it is the text of another record's identifier too. -/
theorem refersTo_and_resolve? (m : Marker) (batch : List Value) :
    (∀ v ∈ batch, ∀ id, v.identifier? = some id →
      m.refersTo (m.link id) id = true ∧
        (∀ s, id = .text s → m.Finds (m.link id) batch s) ∧
        (m.Finds (m.link id) batch id.display ↔
          ∃ w ∈ batch, w.identifier? = some (.text id.display))) ∧
      ∀ reference fields, m.resolve? reference batch = some fields →
        ∃ id, (Value.record fields).identifier? = some id ∧ m.refersTo reference id = true := by
  constructor
  · intro v hv id hid
    refine ⟨refersTo_link (Value.identifier?_eq_some_iff.mp hid).2, ?_, finds_iff⟩
    rintro s rfl
    exact finds_iff.mpr ⟨v, hv, hid⟩
  · intro reference fields h
    obtain ⟨s, rfl, hid⟩ := exists_of_resolve? h
    exact ⟨.text s, hid, refersTo_link (Value.identifier?_eq_some_iff.mp hid).2⟩

def namesakes : List Value :=
  [.record [(.text "@id", .int 7)],
    .record [(.text "@id", .text "7"), (.text "name", .text "Ann")]]

theorem refersTo_and_resolve?_namesakes :
    standard.refersTo (.text "#7") (.int 7) = true ∧
      standard.Finds (.text "#7") namesakes "7" ∧
      standard.refersTo (.text "#7") (.text "7") = true := by
  have h := refersTo_and_resolve? standard namesakes
  have hnumber := h.1 _ (List.mem_cons_self ..) (.int 7) rfl
  have htext := h.1 _ (List.mem_cons_of_mem _ (List.mem_cons_self ..)) (.text "7") rfl
  exact ⟨hnumber.1, htext.2.1 "7" rfl, htext.1⟩

/-- A record whose identifier is a number is referred to by the text of the number, but following
that reference does not find it. -/
theorem not_finds_number :
    standard.refersTo (.text "#7") (.int 7) = true ∧
      ¬∃ fields, standard.resolve? (.text "#7") [.record [(.text "@id", .int 7)]] = some fields := by
  refine ⟨rfl, ?_⟩
  rintro ⟨fields, h⟩
  cases h

end Marker
end Microdata
