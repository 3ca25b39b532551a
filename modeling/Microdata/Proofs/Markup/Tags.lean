import Mathlib.Data.List.TakeWhile
import Microdata.Proofs.Markup.Escape
import Microdata.Proofs.Markup.Names
set_option autoImplicit false

namespace Microdata

namespace Markup

def attributeText (p : String × String) : List Char :=
  ' ' :: (p.1.toList ++ '=' :: '"' :: (p.2.toList.flatMap escapeValueChar ++ ['"']))

theorem separators_cons {c : Char} (hc : c ≠ '/') (rest : List Char) :
    separators (c :: rest) = if Text.isBlank c then separators rest + 1 else 0 := by
  have hslash : (c == '/') = false := beq_eq_false_iff_ne.mpr hc
  rw [separators.eq_def]
  split
  · rename_i heq
    exact absurd (List.cons.inj heq).1 hc
  · rename_i heq
    cases heq
    rw [hslash, Bool.or_false]
  · rename_i heq
    cases heq

theorem separators_attributes (as : List (String × String)) (rest : List Char)
    (h : ∀ p ∈ as, IsAttributeName p.1) :
    separators (as.flatMap attributeText ++ '>' :: rest) = if as = [] then 0 else 1 := by
  cases as with
  | nil =>
    have hclose : Text.isBlank '>' = false := by decide
    rw [List.flatMap_nil, List.nil_append, separators_cons (by decide), hclose]
    rfl
  | cons p as =>
    obtain ⟨c, cs, hs, hc⟩ := exists_cons_of_any (h p (List.mem_cons_self ..)).begins
    obtain ⟨hletter, hslash, -⟩ := (beginsAttribute_iff separates_space).mp hc
    have hblank : Text.isBlank ' ' = true := by decide
    have hwritten : (p :: as).flatMap attributeText ++ '>' :: rest =
        ' ' :: c :: (cs ++ '=' :: '"' :: (p.2.toList.flatMap escapeValueChar ++
          '"' :: (as.flatMap attributeText ++ '>' :: rest))) := by
      simp [attributeText, hs]
    rw [hwritten, separators_cons (by decide), hblank, separators_cons hslash, hletter]
    rfl

theorem upTo?_append {quote : Char} {cs : List Char} (h : quote ∉ cs) (rest : List Char) :
    upTo? quote (cs ++ quote :: rest) = some cs := by
  have hcs : ∀ c ∈ cs, (c != quote) = true := by
    intro c hc
    rw [bne_iff_ne]
    rintro rfl
    exact h hc
  have hstop : ∀ c ∈ (quote :: rest).head?, (c != quote) = false := by simp
  rw [upTo?, if_pos (by simp), (Text.takeWhile_append hcs hstop).1]

theorem attributeValue_quoted {value : List Char} (h : '"' ∉ value) (rest : List Char) :
    attributeValue ('=' :: '"' :: (value ++ '"' :: rest)) = (value, value.length + 3) := by
  have hequals : Text.isBlank '=' = false := by decide +kernel
  have hquote : Text.isBlank '"' = false := by decide +kernel
  simp [attributeValue, hequals, hquote, upTo?_append h]
  omega

theorem not_mem_escapedValue (s : String) : '"' ∉ s.toList.flatMap escapeValueChar := by
  simp [not_mem_escapeValueChar]

def restOfAttribute (cs value : List Char) : List Char := cs ++ '=' :: '"' :: (value ++ ['"'])

theorem length_restOfAttribute (cs value : List Char) :
    (restOfAttribute cs value).length = cs.length + (value.length + 3) := by
  simp [restOfAttribute]

theorem oneAttribute_written {name : String} {c : Char} {cs : List Char}
    (hname : name.toList = c :: cs) (hw : IsAttributeName name) {value : List Char} (hv : '"' ∉ value)
    (rest : List Char) :
    oneAttribute c (restOfAttribute cs value ++ rest) =
      ((name, value), (restOfAttribute cs value).length + separators rest) := by
  have hcs : ∀ d ∈ cs, isAttributeChar d = true := fun d hd => hw.chars d (by simp [hname, hd])
  have hwritten : restOfAttribute cs value ++ rest =
      cs ++ '=' :: '"' :: (value ++ '"' :: rest) := by
    simp [restOfAttribute]
  have hstop : ∀ d ∈ ('=' :: '"' :: (value ++ '"' :: rest)).head?, isAttributeChar d = false := by
    simp [isAttributeChar]
  have htake := (Text.takeWhile_append hcs hstop).1
  have hlower : Text.lower (String.ofList (c :: cs)) = name := by
    rw [← hname, String.ofList_toList, hw.lower]
  have hdrop : (cs ++ '=' :: '"' :: (value ++ '"' :: rest)).drop
      (cs.length + (value.length + 3)) = rest := by
    rw [← hwritten, ← length_restOfAttribute, List.drop_left]
  rw [hwritten, length_restOfAttribute]
  simp only [oneAttribute, htake, hlower, List.length_cons, Nat.add_sub_cancel,
    List.drop_left, attributeValue_quoted hv, hdrop]

theorem attributes_stop {last c : Char} (h : beginsAttribute last c = false) (rest : List Char) :
    attributes last (c :: rest) = ([], c :: rest) := by
  unfold attributes
  simp only [h, Bool.false_eq_true, if_false]

theorem attributes_close (last : Char) (rest : List Char) :
    attributes last ('>' :: rest) = ([], '>' :: rest) := by
  refine attributes_stop ?_ rest
  rw [beginsAttribute, beq_self_eq_true, Bool.or_true, Bool.not_true, Bool.and_false]

theorem attributes_written (as : List (String × String)) (rest : List Char)
    (h : ∀ p ∈ as, IsAttributeName p.1) {last : Char} (hl : separates last = true) :
    attributes last ((as.flatMap attributeText ++ '>' :: rest).drop (if as = [] then 0 else 1)) =
      (as.map fun p => (p.1, p.2.toList.flatMap escapeValueChar), '>' :: rest) := by
  induction as generalizing last with
  | nil => simpa using attributes_close last rest
  | cons p as ih =>
    have hp := h p (List.mem_cons_self ..)
    have has := fun q hq => h q (List.mem_cons_of_mem _ hq)
    obtain ⟨c, cs, hname, hc⟩ := exists_cons_of_any hp.begins
    have hbegins : beginsAttribute last c = true :=
      (beginsAttribute_iff hl).mpr ((beginsAttribute_iff separates_space).mp hc)
    have hseparators := separators_attributes as rest has
    have hone := oneAttribute_written hname hp
      (not_mem_escapedValue p.2) (as.flatMap attributeText ++ '>' :: rest)
    have hwritten : ((p :: as).flatMap attributeText ++ '>' :: rest).drop
        (if p :: as = [] then 0 else 1) =
        c :: (restOfAttribute cs (p.2.toList.flatMap escapeValueChar) ++
          (as.flatMap attributeText ++ '>' :: rest)) := by
      simp [attributeText, hname, restOfAttribute]
    -- behind an attribute stand a quote and, before another one, a blank
    have hlast (k : Nat) (hk : k = if as = [] then 0 else 1) :
        separates (((restOfAttribute cs (p.2.toList.flatMap escapeValueChar) ++
          (as.flatMap attributeText ++ '>' :: rest)).take
            ((restOfAttribute cs (p.2.toList.flatMap escapeValueChar)).length + k)).getLastD c) =
          true := by
      rw [List.take_length_add_append]
      cases as with
      | nil =>
        subst hk
        have hquote (cs : List Char) : (cs ++ ['"']).getLastD c = '"' := by simp
        have hrest (cs value : List Char) : restOfAttribute cs value =
            (cs ++ '=' :: '"' :: value) ++ ['"'] := by simp [restOfAttribute]
        have hseparates : separates '"' = true := by decide +kernel
        simp only [if_true, List.take_zero, List.append_nil, hrest, hquote, hseparates]
      | cons q as =>
        subst hk
        simp [attributeText, separates, Text.isBlank]
    rw [hwritten]
    unfold attributes
    simp only [hbegins, if_true, hone, hseparators,
      List.drop_length_add_append]
    rw [ih has (hlast _ rfl), List.map_cons]

theorem assign_new {name : String} {as : List (String × String)} (h : name ∉ as.map (·.1))
    (value : String) : assign name value as = as ++ [(name, value)] := by
  induction as with
  | nil => rfl
  | cons p as ih =>
    obtain ⟨n, v⟩ := p
    rw [List.map_cons, List.mem_cons, not_or] at h
    rw [assign, if_neg (Ne.symm h.1), ih h.2, List.cons_append]

/-- Attributes with different names, read as they were before they were escaped. -/
theorem collect_written {as : List (String × String)} (h : (as.map (·.1)).Nodup) :
    collect (as.map fun p => (p.1, p.2.toList.flatMap escapeValueChar)) = .ok as := by
  have hfrom (done as : List (String × String)) (h : ((done ++ as).map (·.1)).Nodup) :
      (as.map fun p => (p.1, p.2.toList.flatMap escapeValueChar)).foldlM
          (fun as p => do .ok (assign p.1 (← unescape p.2) as)) done =
        (.ok (done ++ as) : Except Fault (List (String × String))) := by
    induction as generalizing done with
    | nil => rw [List.append_nil]; rfl
    | cons p as ih =>
      have hsplit : done ++ p :: as = (done ++ [p]) ++ as := by simp
      have hnew : p.1 ∉ done.map (·.1) := by
        rw [List.map_append, List.nodup_append] at h
        exact fun hm => h.2.2 _ hm _ (by simp) rfl
      rw [hsplit] at h ⊢
      rw [List.map_cons, List.foldlM_cons, unescape_escapeValue]
      change (Except.ok (assign p.1 p.2 done) >>= _) = _
      rw [assign_new hnew]
      exact ih _ h
  exact hfrom [] as h

variable {tag : String}

theorem isTagChar_attributes (as : List (String × String)) (rest : List Char) :
    ∀ c ∈ (as.flatMap attributeText ++ '>' :: rest).head?, isTagChar c = false := by
  cases as with
  | nil => simp [isTagChar]
  | cons p as => simp [attributeText, isTagChar]

theorem startTag_written (h : IsTagName tag) {as : List (String × String)}
    (has : ∀ p ∈ as, IsAttributeName p.1) (hd : (as.map (·.1)).Nodup) (rest : List Char) :
    startTag (tag.toList ++ (as.flatMap attributeText ++ '>' :: rest)) =
      .ok (.read [.start tag as] ((tag.toList ++ as.flatMap attributeText).length + 1)) := by
  have hname := (Text.takeWhile_append h.chars (isTagChar_attributes as rest)).1
  have hseparators := separators_attributes as rest has
  have hpairs : attributes
      (((tag.toList ++ (as.flatMap attributeText ++ '>' :: rest)).take
        (tag.toList.length + if as = [] then 0 else 1)).getLastD ' ')
      ((as.flatMap attributeText ++ '>' :: rest).drop (if as = [] then 0 else 1)) =
      (as.map fun p => (p.1, p.2.toList.flatMap escapeValueChar), '>' :: rest) := by
    cases as with
    | nil => simpa using attributes_close _ rest
    | cons p as =>
      refine attributes_written (p :: as) rest has ?_
      rw [List.take_length_add_append]
      simpa [attributeText] using separates_space
  have hmore : (tag.toList ++ (as.flatMap attributeText ++ '>' :: rest)).length -
      ('>' :: rest).length = (tag.toList ++ as.flatMap attributeText).length := by
    rw [← List.append_assoc, List.length_append, Nat.add_sub_cancel]
  have hlower : Text.lower (String.ofList tag.toList) = tag := by
    rw [String.ofList_toList, h.lower]
  simp only [startTag, hname, List.drop_left, hseparators, List.drop_length_add_append, hpairs,
    collect_written hd, hmore, hlower]
  rfl

theorem endTagName?_written (h : IsTagName tag) (hend : endsInBlank tag = false) :
    endTagName? tag.toList = some tag.toList := by
  obtain ⟨c, cs, hs, hc⟩ := exists_cons_of_any h.letter
  have hletter := isAlpha_of_isLower hc
  have hblank : Text.isBlank c = false := by
    simpa using of_isWordChar (p := fun c => !Text.isBlank c) (by decide +kernel)
      (isWordChar_of_isLower hc)
  have htrim : Text.trim Text.isBlank tag.toList = tag.toList := by
    refine Text.trim_of_ends (fun d hd => ?_) ((Option.any_eq_false ..).mp hend)
    obtain rfl : c = d := by simpa [hs] using hd
    exact hblank
  have htake : tag.toList.takeWhile isTagChar = tag.toList := List.takeWhile_eq_self_iff.mpr h.chars
  have hhead : tag.toList.head?.any Char.isAlpha = true := by simp [hs, hletter]
  unfold endTagName?
  simp only [htrim, htake, hhead, if_true, ite_self]

theorem endTag_written (h : IsTagName tag) (hend : endsInBlank tag = false) (rest : List Char) :
    endTag (tag.toList ++ '>' :: rest) = .read [.stop tag] (tag.toList.length + 2) := by
  have hopen : '>' ∉ tag.toList := fun hm => absurd (h.chars _ hm) (by decide)
  simp only [endTag, upTo?_append hopen, endTagName?_written h hend, String.ofList_toList, h.lower]

theorem construct_letter {c : Char} (hc : c.isLower = true) {cs : List Char}
    {events : List Event} {more : Nat} (h : startTag (c :: cs) = .ok (.read events more)) :
    construct (c :: cs) = .ok (events, more) := by
  have hletter := isAlpha_of_isLower hc
  have hmark {d : Char} {tail : List Char} (hd : d.isLower = false) : c :: cs ≠ d :: tail := by
    intro heq
    rw [(List.cons.inj heq).1, hd] at hc
    cases hc
  unfold construct
  split
  · exact absurd ‹_› (hmark (by decide))
  · exact absurd ‹_› (hmark (by decide))
  · exact absurd ‹_› (hmark (by decide))
  · rename_i heq
    cases heq
    rw [if_pos hletter, h]
    rfl
  · rename_i heq
    cases heq

theorem construct_slash {cs : List Char} {events : List Event} {more : Nat}
    (h : endTag cs = .read events more) : construct ('/' :: cs) = .ok (events, more) := by
  simp only [construct, h]
  rfl

theorem eventsFrom_construct {cs written rest : List Char} {events : List Event}
    (hcs : cs = written ++ rest) (h : construct cs = .ok (events, written.length)) :
    eventsFrom none ('<' :: cs) = (eventsFrom (opensRaw? events) rest).map (events ++ ·) := by
  have hdrop : cs.drop written.length = rest := by rw [hcs, List.drop_left]
  rw [eventsFrom]
  simp only [beq_self_eq_true, if_true, h, hdrop]
  cases eventsFrom (opensRaw? events) rest with
  | error f => rfl
  | ok es => rfl

theorem eventsFrom_start (h : IsTagName tag) {as : List (String × String)}
    (has : ∀ p ∈ as, IsAttributeName p.1) (hd : (as.map (·.1)).Nodup) (rest : List Char) :
    eventsFrom none ('<' :: (tag.toList ++ (as.flatMap attributeText ++ '>' :: rest))) =
      (eventsFrom (opensRaw? [.start tag as]) rest).map ([.start tag as] ++ ·) := by
  have hsplit : tag.toList ++ (as.flatMap attributeText ++ '>' :: rest) =
      (tag.toList ++ (as.flatMap attributeText ++ ['>'])) ++ rest := by
    simp only [List.append_assoc, List.singleton_append]
  have hconstruct : construct (tag.toList ++ (as.flatMap attributeText ++ '>' :: rest)) =
      .ok ([.start tag as], (tag.toList ++ (as.flatMap attributeText ++ ['>'])).length) := by
    have hstart := startTag_written h has hd rest
    obtain ⟨c, cs, hs, hc⟩ := exists_cons_of_any h.letter
    rw [hs, List.cons_append] at hstart ⊢
    rw [construct_letter hc hstart]
    simp only [List.length_append, List.length_cons, List.length_nil, Nat.zero_add, Nat.add_assoc]
  exact eventsFrom_construct hsplit hconstruct

theorem eventsFrom_stop (h : IsTagName tag) (hend : endsInBlank tag = false) (rest : List Char) :
    eventsFrom none ('<' :: '/' :: (tag.toList ++ '>' :: rest)) =
      (eventsFrom none rest).map ([.stop tag] ++ ·) := by
  have hsplit : '/' :: (tag.toList ++ '>' :: rest) = ('/' :: (tag.toList ++ ['>'])) ++ rest := by
    simp only [List.cons_append, List.append_assoc, List.nil_append]
  have hconstruct : construct ('/' :: (tag.toList ++ '>' :: rest)) =
      .ok ([.stop tag], ('/' :: (tag.toList ++ ['>'])).length) := by
    rw [construct_slash (endTag_written h hend rest)]
    simp only [List.length_append, List.length_cons, List.length_nil]
  exact eventsFrom_construct hsplit hconstruct

theorem eventsFrom_run {written rest : List Char} {s : String} (hwritten : '<' ∉ written)
    (hs : unescape written = .ok s) (hrest : ∀ c ∈ rest.head?, c = '<') :
    eventsFrom none (written ++ rest) = (eventsFrom none rest).map (dataEvent s ++ ·) := by
  have hstop : ∀ c ∈ rest.head?, (c != '<') = false := by
    intro c hc
    rw [hrest c hc]
    rfl
  cases written with
  | nil =>
    obtain rfl : s = "" := by
      have hempty : unescape [] = .ok "" := unescape_escapeText ""
      exact Except.ok.inj (hs.symm.trans hempty)
    rw [List.nil_append]
    cases eventsFrom none rest with
    | error f => rfl
    | ok es => rfl
  | cons c cs =>
    rw [List.mem_cons, not_or] at hwritten
    have hc : (c == '<') = false := beq_eq_false_iff_ne.mpr (Ne.symm hwritten.1)
    have hcs : ∀ d ∈ cs, (d != '<') = true := fun d hd =>
      bne_iff_ne.mpr fun he => hwritten.2 (he ▸ hd)
    have htake := (Text.takeWhile_append hcs hstop).1
    rw [List.cons_append, eventsFrom]
    simp only [hc, htake, hs, List.length_cons, Nat.add_sub_cancel, List.drop_left,
      Bool.false_eq_true, if_false]
    cases eventsFrom none rest with
    | error f => rfl
    | ok es => rfl

theorem eventsFrom_text (s : String) {rest : List Char} (hrest : ∀ c ∈ rest.head?, c = '<') :
    eventsFrom none (s.toList.flatMap escapeTextChar ++ rest) =
      (eventsFrom none rest).map (dataEvent s ++ ·) := by
  refine eventsFrom_run (fun hm => ?_) (unescape_escapeText s) hrest
  obtain ⟨d, -, hd⟩ := List.mem_flatMap.mp hm
  exact not_mem_escapeTextChar d hd

end Markup
end Microdata
