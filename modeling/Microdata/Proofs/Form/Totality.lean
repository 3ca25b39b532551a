import Mathlib.Data.List.TakeWhile
import Microdata.Proofs.Form.Conservation
set_option autoImplicit false

namespace Microdata

def SpellsNone (part : String) : Prop :=
  isNumber part = true ∧
    ((∃ c ∈ part.toList, Text.decimalValue? c = none) ∨ digitLimit < part.length)

theorem exists_readNumber {part : String}
    (hdecimal : ∀ c ∈ part.toList, Text.decimalValue? c ≠ none)
    (hlength : part.length ≤ digitLimit) : ∃ n, readNumber part = .ok n := by
  have hall : (part.toList.map Text.decimalValue?).takeWhile Option.isSome =
      part.toList.map Text.decimalValue? := by
    rw [List.takeWhile_eq_self_iff]
    intro d hd
    obtain ⟨c, hc, rfl⟩ := List.mem_map.mp hd
    exact Option.isSome_iff_ne_none.mpr (hdecimal c hc)
  have hcount : ¬digitLimit < part.toList.length := by
    rw [String.length_toList]
    omega
  simp only [readNumber, hall, List.length_map, if_neg hcount, if_true]
  exact ⟨_, rfl⟩

theorem spellsNone_of_readNumber {part : String} {f : Fault} (hn : isNumber part = true)
    (h : readNumber part = .error f) : SpellsNone part := by
  refine ⟨hn, Classical.byContradiction fun hnot => ?_⟩
  rw [not_or, Nat.not_lt] at hnot
  obtain ⟨n, hread⟩ := exists_readNumber (fun c hc hnone => hnot.1 ⟨c, hc, hnone⟩) hnot.2
  rw [hread] at h
  cases h

namespace Value

/-- A path leads from a value to what is there, or is made, for the rest of its parts. -/
inductive Leads : Value → List String → Value → List String → Prop
  | here (c : Value) (parts : List String) : Leads c parts c parts
  | into {c d : Value} {part next : String} {rest parts : List String} {step : Step}
      (hc : c.isContainer = true) (hstep : c.step? part = .ok (some step))
      (h : Leads (c.entered step next) (next :: rest) d parts) : Leads c (part :: next :: rest) d parts

/-- A value that has no place for a part of a path: it holds no others, or it is a list and the part
is no position. -/
def Lacks (d : Value) (part : String) : Prop :=
  d.isContainer = false ∨ ∃ items, d = .list items ∧ isNumber part = false

/-- A path without parts, or one that comes to where there is no place for its next part. -/
def Strays (c : Value) (parts : List String) : Prop :=
  parts = [] ∨ ∃ d part rest, Leads c parts d (part :: rest) ∧ d.Lacks part

/-- A path that comes to a list with digits for which there is no position. -/
def Breaks (c : Value) (parts : List String) (f : Fault) : Prop :=
  ∃ items part rest, Leads c parts (.list items) (part :: rest) ∧ SpellsNone part ∧
    readNumber part = .error f

variable {c v : Value} {part : String} {step : Step}

theorem step?_eq_error {f : Fault} (hc : c.isContainer = true) (h : c.step? part = .error f) :
    ∃ items, c = .list items ∧ SpellsNone part ∧ readNumber part = .error f := by
  cases c with
  | record fields => cases h
  | list items =>
    rw [step?] at h
    · split at h
      · rename_i hn
        cases hread : readNumber part with
        | ok n =>
          rw [hread] at h
          cases h
        | error g =>
          rw [hread] at h
          cases h
          exact ⟨items, rfl, spellsNone_of_readNumber hn hread, rfl⟩
      · cases h
    · exact fun _ he => by cases he
  | _ => cases hc

theorem step?_eq_none (hc : c.isContainer = true) :
    c.step? part = .ok Option.none ↔ c.Lacks part := by
  cases c with
  | record fields => simp [step?, Lacks, isContainer]
  | list items =>
    rw [step?]
    · cases hn : isNumber part with
      | false => simp [Lacks, hn]
      | true => cases hread : readNumber part <;> simp [Lacks, hn, isContainer, bind, Except.bind]
    · exact fun _ he => by cases he
  | _ => cases hc

theorem store_ignored (hc : c.isContainer = true) (hstep : c.step? part = .ok (some step))
    {next : String} {rest : List String} {listed : Bool}
    (hinner : (c.entered step next).store (next :: rest) listed v =
      ⟨c.entered step next, .ok .ignored⟩) :
    c.store (part :: next :: rest) listed v = ⟨c, .ok .ignored⟩ := by
  by_cases hin : (c.entered step next).isContainer = true
  · rw [store_cons hc hstep hin, hinner]
    rcases c.cases_entered step next with ⟨hmade, -⟩ | hold
    · rw [hmade] at hinner
      exact absurd rfl (store_fresh_ne_ignored next rest listed (congrArg Stored.result hinner))
    · rw [setAt_of_at? hold]
      rfl
  · exact store_stopped hstep hin rest listed v

theorem store_lacks (hd : c.isContainer = true) (hlacks : c.Lacks part) (rest : List String)
    (listed : Bool) (v : Value) : c.store (part :: rest) listed v = ⟨c, .ok .ignored⟩ := by
  have hstep := (step?_eq_none hd).mpr hlacks
  simp only [store, hstep]

theorem store_of_strays (hc : c.isContainer = true) {parts : List String} (h : c.Strays parts)
    (listed : Bool) (v : Value) : c.store parts listed v = ⟨c, .ok .ignored⟩ := by
  obtain rfl | ⟨d, part, rest, hleads, hlacks⟩ := h
  · rfl
  · generalize htail : part :: rest = tail at hleads
    induction hleads with
    | here c parts =>
      subst htail
      exact store_lacks hc hlacks rest listed v
    | @into c d first next more parts step hfirst hstep hleads ih =>
      by_cases hin : (c.entered step next).isContainer = true
      · exact store_ignored hfirst hstep (ih hin hlacks htail)
      · exact store_stopped hstep hin more listed v

theorem storeLast_ne_error (hc : c.isContainer = true) (step : Step) (listed : Bool) (v : Value)
    (f : Fault) : (c.storeLast step listed v).result ≠ .error f := by
  have hrefusal := refusal?_of_isContainer hc step
  unfold storeLast
  split
  · nofun
  · rw [hrefusal]
    dsimp only
    split
    · split <;> nofun
    · split <;> nofun
    · nofun

theorem breaks_of_store {f : Fault} (hc : c.isContainer = true) (parts : List String)
    {listed : Bool} (h : (c.store parts listed v).result = .error f) : c.Breaks parts f := by
  induction parts generalizing c with
  | nil => cases h
  | cons part rest ih =>
    cases hstep : c.step? part with
    | error g =>
      obtain ⟨items, rfl, hnone, hread⟩ := step?_eq_error hc hstep
      simp only [store, hstep] at h
      cases h
      exact ⟨items, part, rest, .here .., hnone, hread⟩
    | ok placed =>
      cases placed with
      | none =>
        simp only [store, hstep] at h
        cases h
      | some step =>
        cases rest with
        | nil =>
          rw [store_last hstep] at h
          exact absurd h (storeLast_ne_error hc step listed v f)
        | cons next rest =>
          by_cases hin : (c.entered step next).isContainer = true
          · have hinner : ((c.entered step next).store (next :: rest) listed v).result =
                .error f := by
              rw [store_cons hc hstep hin] at h
              cases hresult : ((c.entered step next).store (next :: rest) listed v).result with
              | ok placement => simp [hresult, Except.map] at h
              | error g => simpa [hresult, Except.map] using h
            obtain ⟨items, last, parts, hleads, hnone⟩ := ih hin hinner
            exact ⟨items, last, parts, .into hc hstep hleads, hnone⟩
          · rw [store_stopped hstep hin] at h
            cases h

theorem kindName_setAt (c w : Value) (step : Step) : (c.setAt step w).kindName = c.kindName := by
  unfold setAt
  split <;> rfl

theorem kindName_storeLast (c w : Value) (step : Step) (listed : Bool) :
    (c.storeLast step listed w).container.kindName = c.kindName := by
  unfold storeLast
  split
  · exact kindName_setAt ..
  · split
    · rfl
    · split
      · split <;> exact kindName_setAt ..
      · split <;> exact kindName_setAt ..
      · exact kindName_setAt ..

theorem kindName_store (c w : Value) (parts : List String) (listed : Bool) :
    (c.store parts listed w).container.kindName = c.kindName := by
  unfold store
  split
  · rfl
  · split
    · rfl
    · rfl
    · split
      · exact kindName_storeLast ..
      · split
        · split
          · rfl
          · exact kindName_setAt ..
        · split
          · rfl
          · exact kindName_setAt ..
        · split
          · exact kindName_setAt ..
          · rfl

theorem exists_record {v : Value} (h : v.kindName = "dict") : ∃ fields, v = .record fields := by
  cases v with
  | record fields => exact ⟨fields, rfl⟩
  | date t =>
    rw [kindName] at h
    split at h <;> simp at h
  | _ => simp [kindName] at h

end Value

def storePair (r : Value) (p : String × Value) : Except Fault Value :=
  let s := r.store (Path.ofText p.1).parts (Path.ofText p.1).isListed p.2
  s.result.map fun _ => s.container

theorem Folding.foldlM_storePair (pairs : List (String × Value)) (f : Folding) :
    pairs.foldlM storePair f.record = match f.run pairs with
      | (g, none) => .ok g.record
      | (_, some fault) => .error fault := by
  induction pairs generalizing f with
  | nil => rfl
  | cons p rest ih =>
    obtain ⟨name, v⟩ := p
    rw [List.foldlM_cons, run, storePair]
    dsimp only
    cases (f.record.store (Path.ofText name).parts (Path.ofText name).isListed v).result with
    | ok placement => exact ih ⟨_, recordPlace f.places placement⟩
    | error fault => rfl

theorem foldPairs_eq_foldlM (pairs : List (String × Value)) :
    foldPairs pairs = pairs.foldlM storePair (.record []) := by
  exact (Folding.foldlM_storePair pairs {}).symm

theorem storePair_cases (fields : Fields) (p : String × Value) :
    (∃ after, storePair (.record fields) p = .ok (.record after)) ∨
      ∃ f, storePair (.record fields) p = .error f ∧
        (Value.record fields).Breaks (Path.ofText p.1).parts f := by
  unfold storePair
  dsimp only
  have hkind := Value.kindName_store (.record fields) p.2 (Path.ofText p.1).parts
    (Path.ofText p.1).isListed
  obtain ⟨after, hafter⟩ := Value.exists_record hkind
  cases hresult : ((Value.record fields).store (Path.ofText p.1).parts (Path.ofText p.1).isListed
      p.2).result with
  | ok placement => exact .inl ⟨after, congrArg Except.ok hafter⟩
  | error f => exact .inr ⟨f, rfl, Value.breaks_of_store rfl _ hresult⟩

theorem storePair_of_strays {fields : Fields} {p : String × Value}
    (h : (Value.record fields).Strays (Path.ofText p.1).parts) :
    storePair (.record fields) p = .ok (.record fields) := by
  rw [storePair, Value.store_of_strays rfl h]
  rfl

theorem foldlM_storePair_cases (fields : Fields) (pairs : List (String × Value)) :
    (∃ after, pairs.foldlM storePair (.record fields) = .ok (.record after)) ∨
      ∃ before p after sofar f, pairs = before ++ p :: after ∧
        before.foldlM storePair (.record fields) = .ok (.record sofar) ∧
        (Value.record sofar).Breaks (Path.ofText p.1).parts f ∧
        pairs.foldlM storePair (.record fields) = .error f := by
  induction pairs generalizing fields with
  | nil => exact .inl ⟨fields, rfl⟩
  | cons p rest ih =>
    rw [List.foldlM_cons]
    rcases storePair_cases fields p with ⟨next, hnext⟩ | ⟨f, hf, hbreaks⟩
    · rw [hnext]
      rcases ih next with ⟨after, hafter⟩ | ⟨before, q, after, sofar, f, rfl, hsofar, hq⟩
      · exact .inl ⟨after, hafter⟩
      · refine .inr ⟨p :: before, q, after, sofar, f, rfl, ?_, hq⟩
        rw [List.foldlM_cons, hnext]
        exact hsofar
    · rw [hf]
      exact .inr ⟨[], p, rest, fields, f, rfl, rfl, hbreaks, rfl⟩

/-- Pairs make a record unless the path of one of them comes, in the record of those before it, to a
list with digits that spell no number; then that is the fault. A pair whose path strays makes
no difference. -/
theorem foldPairs_total (pairs : List (String × Value)) :
    ((∃ fields, foldPairs pairs = .ok (.record fields)) ∨
      ∃ before p after fields f, pairs = before ++ p :: after ∧
        foldPairs before = .ok (.record fields) ∧
        (Value.record fields).Breaks (Path.ofText p.1).parts f ∧ foldPairs pairs = .error f) ∧
      ∀ before p after fields, pairs = before ++ p :: after →
        foldPairs before = .ok (.record fields) →
        (Value.record fields).Strays (Path.ofText p.1).parts →
        foldPairs pairs = foldPairs (before ++ after) := by
  simp only [foldPairs_eq_foldlM]
  refine ⟨foldlM_storePair_cases [] pairs, ?_⟩
  rintro before p after fields rfl hbefore hstrays
  rw [List.foldlM_append, List.foldlM_append, hbefore]
  change List.foldlM storePair (.record fields) (p :: after) = _
  rw [List.foldlM_cons, storePair_of_strays hstrays]

def tagged : Fields := [(.text "tags", .list [.text "x"])]

theorem foldPairs_total_tagged :
    foldPairs [("tags.0", .text "x")] = .ok (.record tagged) ∧
      (Value.record tagged).Strays (Path.ofText "tags.name").parts ∧
      foldPairs [("tags.0", .text "x"), ("tags.name", .text "y"), ("tags.1", .text "z")] =
        foldPairs [("tags.0", .text "x"), ("tags.1", .text "z")] := by
  have hbefore : foldPairs [("tags.0", .text "x")] = .ok (.record tagged) := rfl
  have hparts : (Path.ofText "tags.name").parts = ["tags", "name"] := by decide
  have hstrays : (Value.record tagged).Strays (Path.ofText "tags.name").parts := by
    rw [hparts]
    refine .inr ⟨.list [.text "x"], "name", [], .into rfl rfl (.here ..), .inr ⟨_, rfl, ?_⟩⟩
    decide
  exact ⟨hbefore, hstrays, (foldPairs_total _).2 [_] _ [_] tagged rfl hbefore hstrays⟩

theorem not_foldPairs_superscript : ¬∀ pairs : List (String × String),
    ∃ fields, foldPairs (pairs.map fun p => (p.1, .text p.2)) = .ok (.record fields) := by
  intro h
  obtain ⟨fields, hfields⟩ := h [("a.0", "x"), ("a.²", "y")]
  have hfault : foldPairs [("a.0", .text "x"), ("a.²", .text "y")] = .error (.badNumeral "²") := rfl
  cases hfault.symm.trans hfields

end Microdata
