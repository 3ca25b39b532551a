import Microdata.Config
import Microdata.Proofs.Source.Properties
import Microdata.Source
set_option autoImplicit false

namespace Microdata

namespace Config

variable {fields : Fields} {c : Config}

abbrev dialect (c : Config) : Dialect := ⟨c.vocabulary, c.separator⟩

namespace Draft

variable {d d' : Draft}

theorem separator_of_put_separator {v : Value} (h : d.put "type_separator" v = .ok d') :
    v = .text d'.separator := by
  cases v with
  | text s =>
    cases h
    rfl
  | _ => cases h

theorem separator_of_put_ne {name : String} {v : Value} (hn : name ≠ "type_separator")
    (h : d.put name v = .ok d') : d'.separator = d.separator := by
  unfold put at h
  dsimp only at h
  split at h
  -- the separator itself, the vocabulary, and an unknown name; the others take one value
  case h_5 => exact absurd rfl hn
  case h_7 =>
    split at h
    · obtain ⟨vocabulary, -, h⟩ := bind_eq_ok.mp h
      cases h
      rfl
    · cases h
  case h_8 => cases h
  all_goals
    split at h <;> cases h
    all_goals rfl

theorem separator_of_read (hd : (fields.map (·.1)).Nodup) (h : d.read fields = .ok d') :
    (∀ v, fields.get? "type_separator" = some v → v = .text d'.separator) ∧
      (fields.get? "type_separator" = none → d'.separator = d.separator) := by
  induction fields generalizing d with
  | nil =>
    cases h
    refine ⟨fun v hv => ?_, fun _ => rfl⟩
    cases hv
  | cons entry rest ih =>
    obtain ⟨k, value⟩ := entry
    obtain ⟨hnot, hrest⟩ := List.nodup_cons.mp hd
    cases k with
    | text name =>
      obtain ⟨next, hput, hread⟩ := bind_eq_ok.mp h
      obtain ⟨hgiven, hnone⟩ := ih hrest hread
      by_cases hn : name = "type_separator"
      · subst hn
        have hlast : Fields.get? "type_separator" rest = none := by
          rw [← Option.not_isSome_iff_eq_none, Fields.get?_isSome_iff]
          exact hnot
        rw [Fields.get?, if_pos rfl, hnone hlast]
        refine ⟨fun v hv => ?_, fun hv => by cases hv⟩
        cases hv
        exact separator_of_put_separator hput
      · rw [Fields.get?, if_neg hn, ← separator_of_put_ne hn hput]
        exact ⟨hgiven, hnone⟩
    | _ => cases h

end Draft

theorem separator_eq_empty_iff (hd : (fields.map (·.1)).Nodup)
    (h : ofValue (.record fields) = .ok c) :
    c.separator = "" ↔ fields.get? "type_separator" = some (.text "") := by
  obtain ⟨draft, hread, hcheck⟩ := bind_eq_ok.mp h
  obtain ⟨hgiven, hnone⟩ := Draft.separator_of_read hd hread
  have hsame : c.separator = draft.separator := by
    rw [Draft.check] at hcheck
    split at hcheck
    · cases hcheck
    · split at hcheck
      · cases hcheck
      · cases hcheck
        rfl
  rw [hsame]
  cases hget : fields.get? "type_separator" with
  | none =>
    rw [hnone hget]
    decide
  | some v =>
    rw [hgiven v hget]
    simp

end Config

namespace Dialect

variable {d : Dialect} {source : Value}

mutual
def entered (d : Dialect) : Element → List Element
  | .mk tag attributes text children =>
    let e := Element.mk tag attributes text children
    if tag = .comment then []
    else if e.has d.vocabulary.scope then
      if (d.properties e).isEmpty then [] else e :: enteredBelow d children
    else enteredBelow d children

def enteredBelow (d : Dialect) : List Child → List Element
  | [] => []
  | (e, _) :: rest => entered d e ++ enteredBelow d rest
end

def recordsOf (d : Dialect) (e : Element) : List Element := e :: d.enteredBelow e.children

/-- Whether the type of an element can be read: there is a separator to cut it at, or no type. -/
def Reads (d : Dialect) (e : Element) : Prop :=
  d.separator = "" → Text.words (e.get d.vocabulary.type) = []

theorem identity_isOk_iff (e : Element) : (∃ fields, d.identity e = .ok fields) ↔ d.Reads e := by
  unfold identity Reads
  dsimp only
  split
  · rename_i hwords
    exact ⟨fun _ _ => hwords, fun _ => ⟨_, rfl⟩⟩
  · rename_i type rest hwords
    rw [hwords]
    constructor
    · rintro ⟨fields, h⟩ hseparator
      obtain ⟨parts, hsplit, -⟩ := bind_eq_ok.mp h
      rw [splitType, if_pos hseparator] at hsplit
      cases hsplit
    · intro h
      have hseparator : d.separator ≠ "" := fun he => by cases h he
      rw [splitType, if_neg hseparator]
      exact ⟨_, rfl⟩

mutual
theorem contributions_isOk_iff (e : Element) :
    (∃ cs, d.contributions e = .ok cs) ↔ ∀ x ∈ d.entered e, d.Reads x := by
  match e with
  | .mk tag attributes text children =>
    rw [contributions, entered]
    dsimp only
    split
    · simp
    · split
      · split
        · simp
        · rw [List.forall_mem_cons, ← identity_isOk_iff, ← contributionsBelow_isOk_iff]
          exact exists_both_eq_ok_iff
      · rw [← contributionsBelow_isOk_iff]
        exact exists_map_eq_ok_iff

theorem contributionsBelow_isOk_iff (children : List Child) :
    (∃ cs, d.contributionsBelow children = .ok cs) ↔
      ∀ x ∈ d.enteredBelow children, d.Reads x := by
  match children with
  | [] => simp [contributionsBelow, enteredBelow]
  | (e, tail) :: rest =>
    rw [contributionsBelow, enteredBelow, List.forall_mem_append, ← contributions_isOk_iff,
      ← contributionsBelow_isOk_iff]
    exact exists_both_eq_ok_iff
end

theorem extract_isOk_iff (e : Element) :
    (∃ fields, d.extract e = .ok fields) ↔ ∀ x ∈ d.recordsOf e, d.Reads x := by
  rw [recordsOf, List.forall_mem_cons, ← identity_isOk_iff, ← contributionsBelow_isOk_iff, extract]
  exact exists_both_eq_ok_iff

theorem extractAll_isOk_iff (es : List Element) :
    (∃ v, d.extractAll es = .ok v) ↔ ∀ x ∈ es.flatMap d.recordsOf, d.Reads x := by
  have hall : (∃ records, es.mapM d.extract = .ok records) ↔
      ∀ x ∈ es.flatMap d.recordsOf, d.Reads x := by
    induction es with
    | nil => simpa using ⟨[], rfl⟩
    | cons e rest ih =>
      rw [List.flatMap_cons, List.forall_mem_append, ← extract_isOk_iff, ← ih, List.mapM_cons]
      exact exists_both_eq_ok_iff
  rw [← hall, extractAll]
  exact exists_map_eq_ok_iff

theorem extractAll_fails (es : List Element) :
    OnlyFails d.Unseparated (d.extractAll es) := by
  have hall : OnlyFails d.Unseparated (es.mapM d.extract) := by
    induction es with
    | nil => exact .ok []
    | cons e rest ih =>
      rw [List.mapM_cons]
      exact (extract_fails e).bind fun _ _ => ih.bind fun _ _ => .ok _
  exact hall.bind fun _ _ => .ok _

/-- The elements that an element is read from: its items, if it is a list, and else itself, unless
it is nothing but a property. -/
def rootsOf (d : Dialect) (e : Element) : List Element :=
  if e.tagName = "ul" ∨ e.tagName = "ol" then
    (e.children.map (·.1)).filter fun item =>
      item.tagName == "li" && item.has d.vocabulary.scope
  else if (d.properties e).isEmpty || e.has d.vocabulary.scope then [e]
  else []

theorem ofElement_cases {e : Element} (h : e.tagName ≠ "form") :
    d.ofElement e = d.extractAll (d.rootsOf e) ∨
      (d.ofElement e = (d.extract e).map .record ∧ d.rootsOf e = [e]) ∨
      (∃ v, d.ofElement e = .ok v) ∧ d.rootsOf e = [] := by
  unfold ofElement
  split
  · rename_i htag
    exact absurd htag h
  · rename_i htag
    rw [rootsOf, if_pos (.inl htag)]
    exact .inl rfl
  · rename_i htag
    rw [rootsOf, if_pos (.inr htag)]
    exact .inl rfl
  · rename_i hul hol
    rw [rootsOf, if_neg (not_or.mpr ⟨hul, hol⟩)]
    dsimp only
    split
    · exact .inr (.inl ⟨rfl, rfl⟩)
    · exact .inr (.inr ⟨⟨_, rfl⟩, rfl⟩)

theorem ofElement_isOk_iff {e : Element} (h : e.tagName ≠ "form") :
    (∃ v, d.ofElement e = .ok v) ↔ ∀ x ∈ (d.rootsOf e).flatMap d.recordsOf, d.Reads x := by
  obtain hlist | ⟨hrecord, hroots⟩ | ⟨hok, hroots⟩ := ofElement_cases (d := d) h
  · rw [hlist, extractAll_isOk_iff]
  · rw [hrecord, hroots, List.flatMap_singleton, ← extract_isOk_iff]
    exact exists_map_eq_ok_iff
  · rw [hroots]
    exact iff_of_true hok (by simp)

theorem ofElement_fails {e : Element} (h : e.tagName ≠ "form") :
    OnlyFails d.Unseparated (d.ofElement e) := by
  obtain hlist | ⟨hrecord, -⟩ | ⟨⟨v, hok⟩, -⟩ := ofElement_cases (d := d) h
  · exact hlist ▸ extractAll_fails _
  · exact hrecord ▸ (extract_fails e).map _
  · exact hok ▸ .ok v

inductive IsTree : Value → Prop
  | document (page : Document) : IsTree (.document page)
  | element {e : Element} (h : e.tagName ≠ "form") : IsTree (.element e)

/-- The elements of a source that are read as records. -/
def records (d : Dialect) : Value → List Element
  | .document page =>
    (page.items d.vocabulary.binding d.vocabulary.scope).flatMap d.recordsOf
  | .element e => (d.rootsOf e).flatMap d.recordsOf
  | _ => []

theorem normalize_isOk_iff (h : IsTree source) :
    (∃ v, d.normalize source = .ok v) ↔ ∀ x ∈ d.records source, d.Reads x := by
  cases h with
  | document page =>
    simp only [normalize, normalizeInner]
    exact extractAll_isOk_iff _
  | element h =>
    simp only [normalize, normalizeInner]
    exact ofElement_isOk_iff h

theorem normalize_fails (h : IsTree source) : OnlyFails d.Unseparated (d.normalize source) := by
  cases h with
  | document page =>
    simp only [normalize, normalizeInner]
    exact extractAll_fails _
  | element h =>
    simp only [normalize, normalizeInner]
    exact ofElement_fails h

/-- Under accepted settings every tree is read, unless they ask for an empty separator and a record
of the tree has a type; that there is no separator is then the fault. -/
theorem accepted_reads {fields : Fields} {c : Config} (hd : (fields.map (·.1)).Nodup)
    (hc : Config.ofValue (.record fields) = .ok c) (hs : IsTree source) :
    ((∃ v, c.dialect.normalize source = .ok v) ↔
        (fields.get? "type_separator" = some (.text "") →
          ∀ x ∈ c.dialect.records source, Text.words (x.get c.vocabulary.type) = [])) ∧
      ∀ f, c.dialect.normalize source = .error f → f = .emptySeparator := by
  have hempty := Config.separator_eq_empty_iff hd hc
  refine ⟨?_, fun f hf => (normalize_fails hs f hf).2⟩
  rw [normalize_isOk_iff hs, ← hempty]
  exact ⟨fun hall hseparator x hx => hall x hx hseparator,
    fun hall x hx hseparator => hall hseparator x hx⟩

def person : Element :=
  .mk (.named "div") [("itemscope", ""), ("itemtype", "https://schema.org/Person")] ""
    [(.mk (.named "span") [("itemprop", "name")] "Ann" [], "")]

def dotted : Fields := [(.text "type_separator", .text "."), (.text "strict", .bool true)]

theorem accepted_reads_person :
    (dotted.map (·.1)).Nodup ∧ IsTree (.element person) ∧
      ∃ c, Config.ofValue (.record dotted) = .ok c ∧
        ∃ v, c.dialect.normalize (.element person) = .ok v := by
  have hd : (dotted.map (·.1)).Nodup := by simp [dotted]
  have hs : IsTree (.element person) := .element (by decide)
  obtain ⟨c, hc⟩ : ∃ c, Config.ofValue (.record dotted) = .ok c := ⟨_, rfl⟩
  have hgiven : dotted.get? "type_separator" ≠ some (.text "") :=
    fun h => absurd (Value.text.inj (Option.some.inj h)) (by decide)
  exact ⟨hd, hs, c, hc, (accepted_reads hd hc hs).1.mpr fun h => absurd h hgiven⟩

def unseparated : Fields := [(.text "type_separator", .text "")]

theorem not_accepted_reads : ¬ ∀ fields c source, (fields.map (·.1)).Nodup →
    Config.ofValue (.record fields) = .ok c → IsTree source →
    ∃ v, c.dialect.normalize source = .ok v := by
  intro hall
  obtain ⟨c, hc⟩ : ∃ c, Config.ofValue (.record unseparated) = .ok c := ⟨_, rfl⟩
  have hd : (unseparated.map (·.1)).Nodup := by simp [unseparated]
  obtain ⟨v, hv⟩ := hall unseparated c (.element person) hd hc (.element (by decide))
  cases hc
  cases hv

end Dialect
end Microdata
