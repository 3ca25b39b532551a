import Mathlib.Data.List.DropRight
import Microdata.Proofs.Source.Properties
import Microdata.Proofs.Text.Cutting
import Microdata.Template.Matching
set_option autoImplicit false

/-!
The type of a record that was read off an element. The type that the element declares is cut in two
when it is read and joined again when a root is looked for. Main statement:
`qualifiedType?_extract`, what is joined is what was declared unless the context ends in a character
of the separator or a property goes by a reserved name; then the record takes the first root that
declares the type.
-/

namespace Microdata

theorem toList_trimEnd (drop : List Char) (s : String) :
    (trimEnd drop s).toList = s.toList.rdropWhile drop.contains :=
  String.toList_ofList

theorem mem_trimEnd {drop : List Char} {s : String} {c : Char} (hc : c ∈ s.toList)
    (hdrop : c ∉ drop) : c ∈ (trimEnd drop s).toList := by
  rw [toList_trimEnd]
  rw [← List.rdropWhile_append_rtakeWhile (p := drop.contains) (l := s.toList)] at hc
  refine (List.mem_append.mp hc).resolve_right fun htake => hdrop ?_
  simpa using List.mem_rtakeWhile_imp htake

theorem trimEnd_eq_iff {drop cs : List Char} : trimEnd drop (String.ofList cs) = String.ofList cs ↔
    ∀ c ∈ cs.getLast?, c ∉ drop := by
  rw [← String.toList_inj, toList_trimEnd, String.toList_ofList, List.rdropWhile_eq_self_iff]
  cases cs using List.reverseRecOn with
  | nil => simp
  | append_singleton cs c => simp

variable {separator : String} {fields : Fields} {type context : Value}

theorem qualifiedType?_eq (htype : fields.get? typeKey = some type)
    (hcontext : fields.get? contextKey = some context) (hpresent : type.isPresent = true)
    (hpresent' : context.isPresent = true) : qualifiedType? separator (.record fields) =
      some (trimEnd separator.toList context.display ++ separator ++ type.display) := by
  rw [qualifiedType?, Value.get?, Value.get?, Value.fields, htype, hcontext]
  simp [hpresent, hpresent']

theorem Pattern.rootFor?_of_declared {record : Value} {t : String} {roots : List Pattern}
    (h : qualifiedType? separator record = some t) (hroots : ∃ r ∈ roots, r.shape.type = some t) :
    ∃ before r after, roots = before ++ r :: after ∧ r.shape.type = some t ∧
      (∀ q ∈ before, q.shape.type ≠ some t) ∧ rootFor? separator record roots = some r := by
  obtain ⟨root, hmem, htype⟩ := hroots
  have hfind : (roots.findIdx? fun r => r.shape.type == some t).isSome = true := by
    rw [List.findIdx?_isSome, List.any_eq_true]
    exact ⟨root, hmem, beq_iff_eq.mpr htype⟩
  obtain ⟨i, hi⟩ := Option.isSome_iff_exists.mp hfind
  obtain ⟨hlt, hdeclares, hbefore⟩ := List.findIdx?_eq_some_iff_getElem.mp hi
  refine ⟨roots.take i, roots[i], roots.drop (i + 1), ?_, beq_iff_eq.mp hdeclares, ?_, ?_⟩
  · rw [← List.drop_eq_getElem_cons hlt, List.take_append_drop]
  · intro q hq
    obtain ⟨j, hj, rfl⟩ := List.mem_take_iff_getElem.mp hq
    have hji : j < i := by omega
    simpa using hbefore j hji
  · rw [rootFor?, rootIndex?, h]
    simp [hi]

theorem mem_display_list (v w : Value) (rest : List Value) :
    ' ' ∈ (Value.list (v :: w :: rest)).display.toList := by
  have hdisplay : (Value.list (v :: w :: rest)).display =
      "[" ++ ", ".intercalate (v.literal :: w.literal :: Value.literals rest) ++ "]" := rfl
  simp [hdisplay, String.intercalate_cons_cons]

theorem gathered_cases (s : String) (values : List Value) :
    values = [] ∧ gathered (.text s :: values) = some (.text s) ∨
      values ≠ [] ∧ ∃ v, gathered (.text s :: values) = some v ∧ v.isPresent = true ∧
        ' ' ∈ v.display.toList := by
  cases values with
  | nil => exact .inl ⟨rfl, rfl⟩
  | cons w rest => exact .inr ⟨nofun, _, rfl, rfl, mem_display_list ..⟩

theorem isPresent_ofList {cs : List Char} (h : cs ≠ []) :
    (Value.text (String.ofList cs)).isPresent = true := by
  simpa [Value.isPresent] using h

variable {before after : List Char} {types contexts : List Value}

/-- Two halves of a type without blanks are joined to it again if nothing was added to them and the
first one does not end in a character of the separator. -/
theorem qualifiedType?_gathered_iff {t : String}
    (heq : t.toList = before ++ separator.toList ++ after) (hblank : ' ' ∉ t.toList)
    (hbefore : before ≠ []) (hafter : after ≠ [])
    (htype : fields.get? typeKey = gathered (.text (String.ofList after) :: types))
    (hcontext : fields.get? contextKey = gathered (.text (String.ofList before) :: contexts)) :
    qualifiedType? separator (.record fields) = some t ↔
      (∀ c ∈ before.getLast?, c ∉ separator.toList) ∧ types = [] ∧ contexts = [] := by
  have hseparator : ' ' ∉ separator.toList := by
    intro hmem
    exact hblank (by simp [heq, hmem])
  obtain ⟨hnil, htext⟩ | ⟨hcons, v, hlist, hpresent, hmem⟩ :=
    gathered_cases (String.ofList before) contexts
  · rw [htext] at hcontext
    obtain ⟨hnil', htext'⟩ | ⟨hcons, v, hlist, hpresent, hmem⟩ :=
      gathered_cases (String.ofList after) types
    · rw [htext'] at htype
      have hjoin : t = String.ofList before ++ separator ++ String.ofList after := by
        rw [← String.toList_inj, heq]
        simp
      rw [qualifiedType?_eq htype hcontext (isPresent_ofList hafter) (isPresent_ofList hbefore),
        hjoin, ← trimEnd_eq_iff]
      simp [Value.display, hnil, hnil', ← String.toList_inj]
    · rw [hlist] at htype
      rw [qualifiedType?_eq htype hcontext hpresent (isPresent_ofList hbefore)]
      refine iff_of_false (fun h => hblank ?_) fun h => hcons h.2.1
      rw [← Option.some.inj h]
      simp [hmem]
  · -- the blank is no character of the separator, so it is not cut off
    rw [hlist] at hcontext
    obtain ⟨w, hw, hpresent'⟩ : ∃ w, fields.get? typeKey = some w ∧ w.isPresent = true := by
      obtain ⟨-, htext'⟩ | ⟨-, w, hlist', hpresent', -⟩ :=
        gathered_cases (String.ofList after) types
      · exact ⟨_, htype.trans htext', isPresent_ofList hafter⟩
      · exact ⟨w, htype.trans hlist', hpresent'⟩
    rw [qualifiedType?_eq hw hcontext hpresent' hpresent]
    refine iff_of_false (fun h => hblank ?_) fun h => hcons h.2.2
    rw [← Option.some.inj h]
    simp [mem_trimEnd hmem hseparator]

namespace Dialect

variable {d : Dialect} {e : Element} {own : Fields} {n s : String}

/-- The entry of a reserved name begins with what the element itself says; elements below that bear
the name add to it. -/
theorem get?_extract_reserved (hidentity : d.identity e = .ok own)
    (hn : own.get? n = some (.text s)) (h : d.extract e = .ok fields) :
    ∃ values, (values = [] ↔ d.bearers n e = []) ∧
      fields.get? n = gathered (.text s :: values) := by
  obtain ⟨_, hagain, h⟩ := bind_eq_ok.mp h
  obtain rfl := Except.ok.inj (hidentity.symm.trans hagain)
  obtain ⟨cs, hcs, h⟩ := bind_eq_ok.mp h
  cases h
  have hall := contributed_membersBelow e.children hcs
  have hvalues := values_of_contributed hall n
  rw [← bearers_eq] at hvalues
  refine ⟨Fields.valuesOf n cs, ?_, ?_⟩
  · rw [← List.length_eq_zero_iff, ← List.length_eq_zero_iff, hvalues.length_eq]
  · have hone : own.get? n = gathered [.text s] := hn
    have hsingle : ∀ w ∈ [Value.text s], w.IsSingle := by
      simp [Value.IsSingle]
    exact Fields.get?_gather (isSingle_of_contributed hall) hone hsingle

theorem exists_identity (hsep : d.separator ≠ "")
    (hcut : Text.LastCut d.separator.toList (e.get d.vocabulary.type).toList before after)
    (hword : ∀ c ∈ (e.get d.vocabulary.type).toList, Text.isBlank c = false) :
    ∃ own, d.identity e = .ok own ∧
      own.get? typeKey = some (.text (String.ofList after)) ∧
      own.get? contextKey = some (.text (String.ofList before)) := by
  have hne : e.get d.vocabulary.type ≠ "" := by
    intro hempty
    have heq := hcut.eq
    simp [hempty, hsep] at heq
  have hsplit : d.splitType (e.get d.vocabulary.type) =
      .ok (String.ofList before, String.ofList after) := by
    rw [splitType, if_neg hsep, Text.cutLastPart?_eq_some_iff.mpr hcut]
    rfl
  have hidentity : d.identity e = .ok ([(.text typeKey, .text (String.ofList after)),
      (.text contextKey, .text (String.ofList before))] ++
      if e.get d.vocabulary.identifier = "" then []
      else [(.text idKey, .text (e.get d.vocabulary.identifier))]) := by
    rw [Dialect.identity, Text.words_of_forall hne hword]
    simp only [hsplit]
    rfl
  exact ⟨_, hidentity, rfl, rfl⟩

/-- What an element declares as its type is what its record is matched by, unless the context ends
in a character of the separator or an element below bears a reserved name; a record with that type
takes the first of the roots that declare it. -/
theorem qualifiedType?_extract (hsep : d.separator ≠ "")
    (hword : ∀ c ∈ (e.get d.vocabulary.type).toList, Text.isBlank c = false)
    (hcut : Text.LastCut d.separator.toList (e.get d.vocabulary.type).toList before after)
    (hbefore : before ≠ []) (hafter : after ≠ []) :
    ∃ fields, d.extract e = .ok fields ∧
      (qualifiedType? d.separator (.record fields) = some (e.get d.vocabulary.type) ↔
        (∀ c ∈ before.getLast?, c ∉ d.separator.toList) ∧
          d.bearers typeKey e = [] ∧ d.bearers contextKey e = []) ∧
      (qualifiedType? d.separator (.record fields) = some (e.get d.vocabulary.type) →
        ∀ roots : List Pattern, (∃ r ∈ roots, r.shape.type = some (e.get d.vocabulary.type)) →
          ∃ front r rest, roots = front ++ r :: rest ∧
            r.shape.type = some (e.get d.vocabulary.type) ∧
            (∀ q ∈ front, q.shape.type ≠ some (e.get d.vocabulary.type)) ∧
            Pattern.rootFor? d.separator (.record fields) roots = some r) := by
  cases hextract : d.extract e with
  | error f => exact absurd (extract_fails e f hextract).1 hsep
  | ok fields =>
    refine ⟨fields, rfl, ?_, fun h roots hroots => Pattern.rootFor?_of_declared h hroots⟩
    obtain ⟨own, hidentity, htype, hcontext⟩ := exists_identity hsep hcut hword
    obtain ⟨types, htypes, htype⟩ := get?_extract_reserved hidentity htype hextract
    obtain ⟨contexts, hcontexts, hcontext⟩ := get?_extract_reserved hidentity hcontext hextract
    have hblank : ' ' ∉ (e.get d.vocabulary.type).toList :=
      fun hmem => absurd (hword ' ' hmem) (by decide)
    rw [qualifiedType?_gathered_iff hcut.eq hblank hbefore hafter htype hcontext, htypes, hcontexts]

def declaring (type property : String) : Element :=
  .mk (.named "div") [("itemscope", ""), ("itemtype", type)] ""
    [(.mk (.named "span") [("itemprop", property)] "Ann" [], "")]

def rootOf (type : String) : Pattern :=
  .analyze {} (.mk (.named "li") [("itemtype", type)] "" [])

theorem isBlank_of_all {cs : List Char} (h : cs.all (!Text.isBlank ·) = true) :
    ∀ c ∈ cs, Text.isBlank c = false := by
  intro c hc
  rw [← Bool.not_eq_true']
  exact List.all_eq_true.mp h c hc

theorem qualifiedType?_extract_person :
    (∀ c ∈ "urn::a:b::Person".toList, Text.isBlank c = false) ∧
      Text.LastCut "::".toList "urn::a:b::Person".toList "urn::a:b".toList "Person".toList ∧
      ∃ fields, ({ separator := "::" } : Dialect).extract (declaring "urn::a:b::Person" "name") =
          .ok fields ∧
        qualifiedType? "::" (.record fields) = some "urn::a:b::Person" ∧
        ∃ r, r.shape.type = some "urn::a:b::Person" ∧ Pattern.rootFor? "::" (.record fields)
          [rootOf "b::Person", rootOf "urn::a:b::Person", rootOf "urn::a:b::Person"] = some r := by
  have hword : ∀ c ∈ "urn::a:b::Person".toList, Text.isBlank c = false :=
    isBlank_of_all (by decide)
  have hcut : Text.LastCut "::".toList "urn::a:b::Person".toList "urn::a:b".toList
      "Person".toList := Text.cutLastPart?_eq_some_iff.mp (by decide)
  have hlast : ∀ c ∈ "urn::a:b".toList.getLast?, c ∉ "::".toList := by
    have hb : "urn::a:b".toList.getLast? = some 'b' := by decide
    intro c hc
    rw [hb] at hc
    cases hc
    decide
  obtain ⟨fields, hextract, hiff, hroots⟩ := qualifiedType?_extract (d := { separator := "::" })
    (e := declaring "urn::a:b::Person" "name") (by decide) hword hcut (by decide) (by decide)
  have htype := hiff.mpr ⟨hlast, rfl, rfl⟩
  obtain ⟨-, r, -, -, hr, -, hfound⟩ := hroots htype
    [rootOf "b::Person", rootOf "urn::a:b::Person", rootOf "urn::a:b::Person"]
    ⟨_, List.mem_cons_of_mem _ (List.mem_cons_self ..), rfl⟩
  exact ⟨hword, hcut, fields, hextract, htype, r, hr, hfound⟩

theorem not_qualifiedType?_extract :
    (∀ c ∈ "https://schema.org/#/Person".toList, Text.isBlank c = false) ∧
      Text.LastCut "#/".toList "https://schema.org/#/Person".toList "https://schema.org/".toList
        "Person".toList ∧
      ¬ "#/".toList <:+ "https://schema.org/".toList ∧
      ∃ fields, ({ separator := "#/" } : Dialect).extract
          (declaring "https://schema.org/#/Person" "name") = .ok fields ∧
        qualifiedType? "#/" (.record fields) = some "https://schema.org#/Person" ∧
        (Pattern.rootFor? "#/" (.record fields) [rootOf "https://schema.org/#/Person"]).isNone := by
  refine ⟨isBlank_of_all (by decide), Text.cutLastPart?_eq_some_iff.mp (by decide), by decide, _,
    rfl, ?_, ?_⟩
  · decide +kernel
  · decide +kernel

end Dialect
end Microdata
