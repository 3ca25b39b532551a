set_option autoImplicit false

namespace Microdata

structure Vocabulary where
  binding : String := "itemprop"
  /-- Ends the name of a property that stands for a list. -/
  arraySuffix : String := "[]"
  scope : String := "itemscope"
  type : String := "itemtype"
  itemId : String := "itemid"
  identifier : String := "id"
  /-- Names the property by which records of the batch refer to the enclosing one. -/
  scopeFilter : String := "data-scope"
  constraint : String := "data-constraint"
  deriving DecidableEq, Repr

/-- A name without a suffix, if it ends with it and is longer. An empty suffix takes everything. -/
def withoutSuffix? (suffix name : String) : Option String :=
  let s := suffix.toList
  let n := name.toList
  if s.isSuffixOf n && s.length < n.length then
    some (String.ofList (if s.isEmpty then [] else n.take (n.length - s.length)))
  else none

theorem withoutSuffix?_append {suffix name : String} (hs : suffix ≠ "") (hn : name ≠ "") :
    withoutSuffix? suffix (name ++ suffix) = some name := by
  simp [withoutSuffix?, hs, hn]

theorem eq_append_of_withoutSuffix? {suffix name stem : String} (hs : suffix ≠ "")
    (h : withoutSuffix? suffix name = some stem) : name = stem ++ suffix := by
  simp only [withoutSuffix?, Option.ite_none_right_eq_some, Option.some.injEq, Bool.and_eq_true,
    List.isSuffixOf_iff_suffix, List.isEmpty_iff, String.toList_eq_nil_iff, if_neg hs] at h
  obtain ⟨⟨⟨front, hname⟩, -⟩, rfl⟩ := h
  rw [← String.toList_inj, String.toList_append, String.toList_ofList, ← hname]
  simp

theorem withoutSuffix?_eq_none {suffix name : String}
    (h : suffix.length < name.length → ¬ suffix.toList <:+ name.toList) :
    withoutSuffix? suffix name = none := by
  simp only [withoutSuffix?, String.length_toList, Bool.and_eq_true, List.isSuffixOf_iff_suffix,
    decide_eq_true_eq]
  exact if_neg fun hc => h hc.2 hc.1

namespace Vocabulary

def cleanName (v : Vocabulary) (name : String) : String :=
  (withoutSuffix? v.arraySuffix name).getD name

end Vocabulary
end Microdata
