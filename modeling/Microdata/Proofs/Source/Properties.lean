import Mathlib.Data.List.Forall2
import Microdata.Extraction
import Microdata.Proofs.Value.Conversion
set_option autoImplicit false

/-!
The values that properties get from elements. `Dialect.bearers` lists the elements that bear a
property of a record, and every entry of the record is gathered from theirs. Main statement:
`extract_gathers`, a property has no entry, one value, or the list of all values, as no element,
one, or several bear it. What is gathered so far is told by the values alone (`get?_gather`), since
what an element is worth is never a list.
-/

namespace Microdata

def gathered : List Value → Option Value
  | [] => none
  | [v] => some v
  | values => some (.list values)

/-- A value that stands alone is told from several. -/
def Value.IsSingle (v : Value) : Prop := ∀ items, v ≠ .list items

namespace Fields

variable {fields : Fields} {n : String} {values : List Value}

theorem get?_contribute_ne {name : String} (h : name ≠ n) (v : Value) :
    (fields.contribute name v).get? n = fields.get? n := by
  unfold contribute
  split <;> rw [get?_put, if_neg h]

theorem get?_contribute_self (hf : fields.get? n = gathered values)
    (hv : ∀ w ∈ values, w.IsSingle) (v : Value) :
    (fields.contribute n v).get? n = gathered (values ++ [v]) := by
  unfold contribute
  match values, hf, hv with
  | [], hf, _ =>
    rw [hf]
    exact (get?_put n n v fields).trans (if_pos rfl)
  | [w], hf, hv =>
    have hw := hv w (List.mem_singleton_self w)
    rw [hf]
    cases w with
    | list items => exact absurd rfl (hw items)
    | _ => exact (get?_put n n _ fields).trans (if_pos rfl)
  | first :: second :: rest, hf, _ =>
    rw [hf]
    exact (get?_put n n _ fields).trans (if_pos rfl)

def valuesOf (n : String) (contributions : List (String × Value)) : List Value :=
  contributions.filterMap fun c => if c.1 = n then some c.2 else none

theorem get?_gather {contributions : List (String × Value)}
    (hc : ∀ c ∈ contributions, c.2.IsSingle) (hf : fields.get? n = gathered values)
    (hv : ∀ w ∈ values, w.IsSingle) :
    (fields.gather contributions).get? n = gathered (values ++ valuesOf n contributions) := by
  induction contributions generalizing fields values with
  | nil => simpa [gather, valuesOf] using hf
  | cons c rest ih =>
    obtain ⟨name, v⟩ := c
    obtain ⟨hsingle, hrest⟩ := List.forall_mem_cons.mp hc
    have hgather : fields.gather ((name, v) :: rest) = (fields.contribute name v).gather rest := rfl
    rw [hgather]
    by_cases hn : name = n
    · subst hn
      have hall : ∀ w ∈ values ++ [v], w.IsSingle :=
        List.forall_mem_append.mpr ⟨hv, List.forall_mem_singleton.mpr hsingle⟩
      rw [ih hrest (get?_contribute_self hf hv v) hall]
      simp [valuesOf]
    · rw [ih hrest ((get?_contribute_ne hn v).trans hf) hv]
      simp [valuesOf, hn]

end Fields

namespace Dialect

variable {d : Dialect}

mutual
/-- The elements that belong to the record that an element is inside of, in document order: none
from comments, and of an element that opens a scope only itself. -/
def members (d : Dialect) : Element → List Element
  | .mk tag attributes text children =>
    let e := Element.mk tag attributes text children
    if tag = .comment then []
    else if e.has d.vocabulary.scope then [e]
    else e :: membersBelow d children

def membersBelow (d : Dialect) : List Child → List Element
  | [] => []
  | (e, _) :: rest => members d e ++ membersBelow d rest
end

/-- The elements that bear a property of the record of an element, once for every name of theirs
that means it. -/
def bearers (d : Dialect) (n : String) (e : Element) : List Element :=
  (d.membersBelow e.children).flatMap fun x => ((d.properties x).filter (· = n)).map fun _ => x

def borne (d : Dialect) (x : Element) : List (String × Element) :=
  (d.properties x).map fun n => (n, x)

theorem bearers_eq (n : String) (e : Element) : d.bearers n e =
    ((d.membersBelow e.children).flatMap d.borne).filterMap
      fun b => if b.1 = n then some b.2 else none := by
  unfold bearers borne
  generalize d.membersBelow e.children = xs
  induction xs with
  | nil => rfl
  | cons x xs ih =>
    have hx : ((d.properties x).filter (· = n)).map (fun _ => x) =
        ((d.properties x).map fun m => (m, x)).filterMap
          fun b => if b.1 = n then some b.2 else none := by
      rw [List.filterMap_map]
      induction d.properties x with
      | nil => rfl
      | cons m ms ihm => by_cases hm : m = n <;> simp_all
    rw [List.flatMap_cons, List.flatMap_cons, List.filterMap_append, ih, hx]

def Contributed (d : Dialect) (b : String × Element) (c : String × Value) : Prop :=
  c.1 = b.1 ∧ d.propertyValue b.2 = .ok c.2

theorem contributed_borne {x : Element} {v : Value} (h : d.propertyValue x = .ok v) :
    List.Forall₂ d.Contributed (d.borne x) ((d.properties x).map fun n => (n, v)) := by
  unfold borne
  rw [List.forall₂_map_left_iff, List.forall₂_map_right_iff, List.forall₂_same]
  exact fun n _ => ⟨rfl, h⟩

mutual
theorem contributed_members (e : Element) {cs : List (String × Value)}
    (h : d.contributions e = .ok cs) :
    List.Forall₂ d.Contributed ((d.members e).flatMap d.borne) cs := by
  match e with
  | .mk tag attributes text children =>
    rw [contributions] at h
    rw [members]
    dsimp only at h ⊢
    split at h
    · rename_i htag
      cases h
      rw [if_pos htag]
      exact .nil
    · rename_i htag
      rw [if_neg htag]
      split at h
      · rename_i hscope
        rw [if_pos hscope, List.flatMap_singleton]
        split at h
        · rename_i hnames
          cases h
          rw [borne, List.isEmpty_iff.mp hnames]
          exact .nil
        · obtain ⟨identity, hidentity, h⟩ := bind_eq_ok.mp h
          obtain ⟨below, hbelow, h⟩ := bind_eq_ok.mp h
          cases h
          refine contributed_borne ?_
          rw [propertyValue, if_pos hscope, extract, hidentity]
          simp [hbelow, bind, Except.bind, Except.map]
      · rename_i hscope
        obtain ⟨below, hbelow, h⟩ := bind_eq_ok.mp h
        cases h
        rw [if_neg hscope, List.flatMap_cons]
        refine List.rel_append (contributed_borne ?_) (contributed_membersBelow children hbelow)
        rw [propertyValue, if_neg hscope]

theorem contributed_membersBelow (children : List Child) {cs : List (String × Value)}
    (h : d.contributionsBelow children = .ok cs) :
    List.Forall₂ d.Contributed ((d.membersBelow children).flatMap d.borne) cs := by
  match children with
  | [] =>
    rw [contributionsBelow] at h
    cases h
    exact .nil
  | (e, tail) :: rest =>
    rw [contributionsBelow] at h
    obtain ⟨first, hfirst, h⟩ := bind_eq_ok.mp h
    obtain ⟨others, hothers, h⟩ := bind_eq_ok.mp h
    cases h
    rw [membersBelow, List.flatMap_append]
    exact List.rel_append (contributed_members e hfirst) (contributed_membersBelow rest hothers)
end

theorem isSingle_of_propertyValue {x : Element} {v : Value} (h : d.propertyValue x = .ok v) :
    v.IsSingle := by
  rintro items rfl
  rw [propertyValue] at h
  split at h
  · obtain ⟨fields, -, he⟩ := map_eq_ok.mp h
    cases he
  · cases h

theorem isSingle_of_contributed {bs : List (String × Element)} {cs : List (String × Value)}
    (h : List.Forall₂ d.Contributed bs cs) : ∀ c ∈ cs, c.2.IsSingle := by
  induction h with
  | nil => exact fun _ hc => nomatch hc
  | cons hbc _ ih => exact List.forall_mem_cons.mpr ⟨isSingle_of_propertyValue hbc.2, ih⟩

theorem values_of_contributed {bs : List (String × Element)} {cs : List (String × Value)}
    (h : List.Forall₂ d.Contributed bs cs) (n : String) :
    List.Forall₂ (fun x v => d.propertyValue x = .ok v)
      (bs.filterMap fun b => if b.1 = n then some b.2 else none) (Fields.valuesOf n cs) := by
  refine List.rel_filterMap (R := d.Contributed) ?_ h
  rintro ⟨m, x⟩ ⟨m', v⟩ ⟨hm, hv⟩
  obtain rfl : m' = m := hm
  by_cases hn : m' = n
  · simpa [hn] using hv
  · simp [hn]

theorem get?_identity {e : Element} {fields : Fields} (h : d.identity e = .ok fields) {n : String}
    (hn : n ∉ [idKey, typeKey, contextKey]) : fields.get? n = none := by
  simp only [List.mem_cons, List.not_mem_nil, or_false, not_or] at hn
  obtain ⟨hid, htype, hcontext⟩ := hn
  have hlast (id : String) :
      Fields.get? n (if id = "" then [] else [(Key.text idKey, Value.text id)]) = none := by
    split
    · rfl
    · simp [Fields.get?, Ne.symm hid]
  unfold identity at h
  dsimp only at h
  split at h
  · obtain ⟨type, hpure, h⟩ := bind_eq_ok.mp h
    cases hpure
    cases h
    exact hlast _
  · obtain ⟨⟨context, name⟩, -, h⟩ := bind_eq_ok.mp h
    obtain ⟨type, hpure, h⟩ := bind_eq_ok.mp h
    cases hpure
    cases h
    rw [Fields.get?_append, hlast]
    simp [Fields.get?, Ne.symm htype, Ne.symm hcontext]

def Unseparated (d : Dialect) (f : Fault) : Prop := d.separator = "" ∧ f = .emptySeparator

theorem identity_fails (e : Element) : OnlyFails d.Unseparated (d.identity e) := by
  have hrest (type : Fields) : OnlyFails d.Unseparated (.ok (type ++
      if e.get d.vocabulary.identifier = "" then []
      else [(Key.text idKey, Value.text (e.get d.vocabulary.identifier))])) := .ok _
  unfold identity
  dsimp only
  split
  · exact OnlyFails.bind (.ok _) fun type _ => hrest type
  · rename_i type _ _
    refine OnlyFails.bind ?_ fun _ _ => OnlyFails.bind (.ok _) fun type _ => hrest type
    unfold splitType
    split
    · rename_i hseparator
      rintro f ⟨⟩
      exact ⟨hseparator, rfl⟩
    · exact .ok _

mutual
theorem contributions_fails (e : Element) : OnlyFails d.Unseparated (d.contributions e) := by
  match e with
  | .mk tag attributes text children =>
    rw [contributions]
    dsimp only
    split
    · exact .ok _
    · split
      · split
        · exact .ok _
        · exact (identity_fails _).bind fun _ _ =>
            (contributionsBelow_fails children).bind fun _ _ => .ok _
      · exact (contributionsBelow_fails children).bind fun _ _ => .ok _

theorem contributionsBelow_fails (children : List Child) :
    OnlyFails d.Unseparated (d.contributionsBelow children) := by
  match children with
  | [] =>
    rw [contributionsBelow]
    exact .ok _
  | (e, tail) :: rest =>
    rw [contributionsBelow]
    exact (contributions_fails e).bind fun _ _ =>
      (contributionsBelow_fails rest).bind fun _ _ => .ok _
end

theorem extract_fails (e : Element) : OnlyFails d.Unseparated (d.extract e) :=
  (identity_fails e).bind fun _ _ => (contributionsBelow_fails e.children).bind fun _ _ => .ok _

/-- The record of an element, which there is unless the dialect has no separator, has for every
property what its bearers are worth: no entry, one value, or the list of all values in order. -/
theorem extract_gathers (d : Dialect) (e : Element) :
    (∃ fields, d.extract e = .ok fields ∧
        ∀ n, n ∉ [idKey, typeKey, contextKey] →
          ∃ values, List.Forall₂ (fun x v => d.propertyValue x = .ok v) (d.bearers n e) values ∧
            fields.get? n = gathered values) ∨
      d.separator = "" ∧ d.extract e = .error .emptySeparator := by
  cases hextract : d.extract e with
  | error f =>
    obtain ⟨hseparator, rfl⟩ := extract_fails e f hextract
    exact .inr ⟨hseparator, rfl⟩
  | ok fields =>
    refine .inl ⟨fields, rfl, fun n hn => ?_⟩
    obtain ⟨identity, hidentity, h⟩ := bind_eq_ok.mp hextract
    obtain ⟨cs, hcs, h⟩ := bind_eq_ok.mp h
    cases h
    have hall := contributed_membersBelow e.children hcs
    have hvalues := values_of_contributed hall n
    rw [← bearers_eq] at hvalues
    refine ⟨_, hvalues, ?_⟩
    have hnone : identity.get? n = gathered [] := get?_identity hidentity hn
    exact Fields.get?_gather (isSingle_of_contributed hall) hnone (by simp)

def office : Element := .mk (.named "b") [("itemprop", "tel")] " 1 " []

def mobile : Element := .mk (.named "data") [("itemprop", "tel[] mobile"), ("value", "2")] "" []

def contact : Element :=
  .mk (.named "div") [("itemscope", ""), ("id", "ann")] ""
    [(office, ""),
      (.mk .comment [] "" [(office, "")], ""),
      (.mk (.named "p") [("itemprop", "note")] "or " [(mobile, "")], ""),
      (.mk (.named "div") [("itemprop", "friend"), ("itemscope", "")] "" [(office, "")], "")]

theorem extract_gathers_contact :
    "tel" ∉ [idKey, typeKey, contextKey] ∧
      ∃ fields, ({} : Dialect).extract contact = .ok fields ∧
        ({} : Dialect).bearers "tel" contact = [office, mobile] ∧
        fields.get? "tel" = some (.list [.text "1", .text "2"]) := by
  have hn : "tel" ∉ [idKey, typeKey, contextKey] := by decide
  have hbearers : ({} : Dialect).bearers "tel" contact = [office, mobile] := rfl
  obtain ⟨fields, hextract, hentry⟩ | ⟨hseparator, -⟩ := extract_gathers {} contact
  · obtain ⟨values, hvalues, hget⟩ := hentry "tel" hn
    rw [hbearers] at hvalues
    obtain ⟨v, rest, hv, hrest, rfl⟩ := List.forall₂_cons_left_iff.mp hvalues
    obtain ⟨w, rest, hw, hnil, rfl⟩ := List.forall₂_cons_left_iff.mp hrest
    obtain rfl := List.forall₂_nil_left_iff.mp hnil
    cases hv
    cases hw
    exact ⟨hn, fields, hextract, hbearers, hget⟩
  · exact absurd hseparator (by decide)

end Dialect
end Microdata
