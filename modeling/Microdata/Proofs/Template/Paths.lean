import Mathlib.Data.List.Nodup
import Microdata.Markup.Page
import Microdata.Proofs.Binding.Places
import Microdata.Proofs.Markup.Reading
import Microdata.Proofs.Number.Numeral
import Microdata.Proofs.Text.Lowercase
set_option autoImplicit false

/-!
Paths as names of places. A path can be read back from its end to the last opening bracket, and from
a slash to the next one, so two children never share a path, nor do any two elements below them
(`child_of_below`). Main statement: `paths_identify`, an element is visited once, under a path of
its own, and what a rendering reports is said of one element.
-/

namespace Microdata

/-- An element whose name does not look like a path. -/
def Element.IsUnslashed (e : Element) : Prop := ∀ name, e.tag = .named name → '/' ∉ name.toList

theorem Element.mem_descendants_self (e : Element) : e ∈ e.descendants := by
  cases e
  rw [descendants]
  exact List.mem_cons_self ..

theorem Element.mem_descendantsOf {c : Child} {cs : List Child} (h : c ∈ cs) :
    c.1 ∈ descendantsOf cs := by
  induction cs with
  | nil => cases h
  | cons d rest ih =>
    rw [descendantsOf, List.mem_append]
    rcases List.mem_cons.mp h with rfl | h
    · exact .inl (mem_descendants_self _)
    · exact .inr (ih h)

namespace Pattern

variable {path p q name other : String} {number k : Nat}

theorem slash_not_mem_stepName {e : Element} (h : e.IsUnslashed) :
    '/' ∉ (stepName e).toList := by
  obtain ⟨tag, attributes, text, children⟩ := e
  unfold stepName
  split
  · decide
  · cases tag with
    | comment => simp [Element.tagName]
    | named name =>
      intro hmem
      change '/' ∈ (Text.lower name).toList at hmem
      rw [Text.lower, String.toList_ofList] at hmem
      rcases (Text.mem_lowerAfter hmem).2 with hname | hfolded
      · exact h name rfl hname
      · exact Text.ne_of_isFolded hfolded (by decide) rfl

def step (name : String) (number : Nat) : List Char :=
  name.toList ++ '[' :: (Nat.toDigits 10 number ++ [']'])

theorem toList_childPath (path name : String) (number : Nat) :
    (childPath path name number).toList = path.toList ++ '/' :: step name number := by
  have hmarks : "/".toList = ['/'] ∧ "[".toList = ['['] ∧ "]".toList = [']'] := by decide
  simp [childPath, step, hmarks]

theorem slash_not_mem_step (h : '/' ∉ name.toList) (number : Nat) : '/' ∉ step name number := by
  have hdigits : '/' ∉ Nat.toDigits 10 number := Numeral.not_mem_toDigits (by decide)
  simp [step, h, hdigits]

theorem append_inj_of_mark {mark : Char} {run run' rest rest' : List Char} (h : mark ∉ run)
    (h' : mark ∉ run') (hrest : ∀ c ∈ rest.head?, c = mark) (hrest' : ∀ c ∈ rest'.head?, c = mark)
    (heq : run ++ rest = run' ++ rest') : run = run' ∧ rest = rest' := by
  have hends {cs tail : List Char} (hcs : mark ∉ cs) (htail : ∀ c ∈ tail.head?, c = mark) :
      (cs ++ tail).takeWhile (· != mark) = cs := by
    refine (Text.takeWhile_append (fun c hc => ?_) fun c hc => by simp [htail c hc]).1
    have hne : c ≠ mark := fun he => hcs (he ▸ hc)
    simpa using hne
  have hrun : run = run' := by rw [← hends h hrest, heq, hends h' hrest']
  subst hrun
  exact ⟨rfl, List.append_cancel_left heq⟩

/-- A name may hold brackets, a number does not, so the last bracket parts them. -/
theorem step_inj (h : step name number = step other k) : name = other ∧ number = k := by
  have hnumber (n : Nat) : '[' ∉ ']' :: (Nat.toDigits 10 n).reverse := by
    have hdigits : '[' ∉ Nat.toDigits 10 n := Numeral.not_mem_toDigits (by decide)
    simp [hdigits]
  have hreverse (s : String) (n : Nat) : (step s n).reverse =
      ']' :: (Nat.toDigits 10 n).reverse ++ '[' :: s.toList.reverse := by
    simp [step]
  have hboth := congrArg List.reverse h
  rw [hreverse, hreverse] at hboth
  obtain ⟨hdigits, hname⟩ :=
    append_inj_of_mark (hnumber number) (hnumber k) (by simp) (by simp) hboth
  have hdigits := List.reverse_injective (List.cons.inj hdigits).2
  have hname := List.reverse_injective (List.cons.inj hname).2
  refine ⟨String.toList_injective hname, ?_⟩
  rw [← Nat.ofDigitChars_ten_toDigits (n := number), hdigits, Nat.ofDigitChars_ten_toDigits]

/-- The path itself, or one that goes on behind it. -/
def Below (path q : String) : Prop :=
  ∃ rest, q.toList = path.toList ++ rest ∧ ∀ c ∈ rest.head?, c = '/'

theorem Below.refl (path : String) : Below path path := ⟨[], by simp, by simp⟩

theorem Below.of_child (h : Below (childPath path name number) q) : Below path q := by
  obtain ⟨rest, hrest, -⟩ := h
  refine ⟨'/' :: step name number ++ rest, ?_, by simp⟩
  rw [hrest, toList_childPath, List.append_assoc]

theorem child_of_below (hname : '/' ∉ name.toList) (hother : '/' ∉ other.toList)
    (h : Below (childPath path name number) q) (h' : Below (childPath path other k) q) :
    name = other ∧ number = k := by
  obtain ⟨rest, hrest, hslash⟩ := h
  obtain ⟨rest', hrest', hslash'⟩ := h'
  have hsame : step name number ++ rest = step other k ++ rest' := by
    rw [hrest, toList_childPath, toList_childPath, List.append_assoc, List.append_assoc] at hrest'
    exact (List.cons.inj (List.append_cancel_left hrest')).2
  exact step_inj (append_inj_of_mark (slash_not_mem_step hname number) (slash_not_mem_step hother k)
    hslash hslash' hsame).1

mutual
theorem below_of_mem_walk (v : Vocabulary) (path : String) (e : Element) {p : Pattern}
    (h : p ∈ (analyzeAt v path e).walk) : Below path p.path := by
  match e with
  | .mk tag attributes text children =>
    rw [analyzeAt, walk, List.mem_cons] at h
    rcases h with rfl | h
    · exact .refl path
    · obtain ⟨c, -, number, -, hbelow⟩ := exists_below_of_mem_walkAll v path [] children h
      exact hbelow.of_child

theorem exists_below_of_mem_walkAll (v : Vocabulary) (path : String) (seen : List String)
    (cs : List Child) {p : Pattern} (h : p ∈ walkAll (analyzeChildren v path seen cs)) :
    ∃ c ∈ cs, ∃ number, seen.count (stepName c.1) < number ∧
      Below (childPath path (stepName c.1) number) p.path := by
  match cs with
  | [] => simp [analyzeChildren, walkAll] at h
  | (e, tail) :: rest =>
    rw [analyzeChildren, walkAll, List.mem_append] at h
    rcases h with h | h
    · exact ⟨(e, tail), List.mem_cons_self .., _, Nat.lt_succ_self _, below_of_mem_walk v _ e h⟩
    · obtain ⟨c, hc, number, hnumber, hbelow⟩ := exists_below_of_mem_walkAll v path _ rest h
      have hcount := List.count_le_count_cons (a := stepName c.1) (b := stepName e) (l := seen)
      exact ⟨c, List.mem_cons_of_mem _ hc, number, Nat.lt_of_le_of_lt hcount hnumber, hbelow⟩
end

mutual
theorem nodup_walk (v : Vocabulary) (path : String) (e : Element)
    (h : ∀ d ∈ e.descendants, d.IsUnslashed) :
    ((analyzeAt v path e).walk.map Pattern.path).Nodup := by
  match e with
  | .mk tag attributes text children =>
    rw [analyzeAt, walk, List.map_cons, List.nodup_cons]
    refine ⟨fun hmem => ?_, nodup_walkAll v path [] children fun d hd => h d ?_⟩
    · obtain ⟨p, hp, hpath⟩ := List.mem_map.mp hmem
      exact Nat.lt_irrefl _ (hpath ▸ length_lt_of_mem_walkAll v path [] children hp)
    · rw [Element.descendants]
      exact List.mem_cons_of_mem _ hd

theorem nodup_walkAll (v : Vocabulary) (path : String) (seen : List String) (cs : List Child)
    (h : ∀ d ∈ Element.descendantsOf cs, d.IsUnslashed) :
    ((walkAll (analyzeChildren v path seen cs)).map Pattern.path).Nodup := by
  match cs with
  | [] => simp [analyzeChildren, walkAll]
  | (e, tail) :: rest =>
    rw [Element.descendantsOf, List.forall_mem_append] at h
    rw [analyzeChildren, walkAll, List.map_append, List.nodup_append]
    refine ⟨nodup_walk v _ e h.1, nodup_walkAll v path _ rest h.2, ?_⟩
    rintro place hfirst _ hothers rfl
    obtain ⟨p, hp, rfl⟩ := List.mem_map.mp hfirst
    obtain ⟨q, hq, hpath⟩ := List.mem_map.mp hothers
    obtain ⟨c, hc, number, hnumber, hbelow⟩ := exists_below_of_mem_walkAll v path _ rest hq
    -- a sibling behind `e` that has its name has a higher number
    obtain ⟨hname, rfl⟩ := child_of_below
      (slash_not_mem_stepName (h.1 e e.mem_descendants_self))
      (slash_not_mem_stepName (h.2 c.1 (Element.mem_descendantsOf hc)))
      (below_of_mem_walk v _ e hp) (hpath ▸ hbelow)
    rw [← hname, List.count_cons_self] at hnumber
    exact Nat.lt_irrefl _ hnumber
end

mutual
theorem map_element_walk (v : Vocabulary) (path : String) (e : Element) :
    (analyzeAt v path e).walk.map (·.shape.element) = e.descendants := by
  match e with
  | .mk tag attributes text children =>
    rw [analyzeAt, walk, List.map_cons, map_element_walkAll v path [] children, Element.descendants]
    rfl

theorem map_element_walkAll (v : Vocabulary) (path : String) (seen : List String)
    (cs : List Child) : (walkAll (analyzeChildren v path seen cs)).map (·.shape.element) =
      Element.descendantsOf cs := by
  match cs with
  | [] => rfl
  | (e, tail) :: rest =>
    rw [analyzeChildren, walkAll, List.map_append, map_element_walk v _ e,
      map_element_walkAll v path _ rest, Element.descendantsOf]
end

end Pattern

theorem Markup.isUnslashed_of_parsePage {text base : String} {page : Document}
    (h : parsePage text base = .ok page) : ∀ e ∈ page.root.descendants, e.IsUnslashed := by
  have hroot : ∃ es, events text = .ok es ∧ page.root = build es := by
    obtain ⟨es, hes, h⟩ := bind_eq_ok.mp h
    refine ⟨es, hes, ?_⟩
    dsimp only at h
    split at h
    · cases h
      rfl
    · obtain ⟨location, -, h⟩ := bind_eq_ok.mp h
      cases h
      rfl
  obtain ⟨es, hes, hroot⟩ := hroot
  obtain ⟨front, children, hbuild, hread⟩ := isRead_of_events hes
  rw [hroot, hbuild, Element.descendants, List.forall_mem_cons]
  constructor
  · rintro name ⟨⟩
    decide
  · intro e he name hname hslash
    obtain ⟨tag, htag⟩ := hread e he
    obtain rfl : name = tag := Tag.named.inj (hname.symm.trans htag.tag_eq)
    exact absurd (htag.name.chars _ hslash) (by decide)

namespace Pattern

/-- A walk over a pattern visits the elements of its tree, each once and in their order, under paths
that tell them apart, and each diagnostic of a rendering, whether that ends in a result or in a
fault, carries the path of one of them, if no name has a slash, as is so for every page that is
read. -/
theorem paths_identify :
    (∀ (v : Vocabulary) (root : Element), (∀ e ∈ root.descendants, e.IsUnslashed) →
      (analyze v root).walk.map (·.shape.element) = root.descendants ∧
      ((analyze v root).walk.map Pattern.path).Nodup ∧
      ∀ (r : Renderer) (record : Value) (c : Context),
        ∀ d ∈ (r.render (analyze v root) record c).report,
          ((analyze v root).walk.map Pattern.path).count d.path = 1) ∧
    ∀ (text base : String) (page : Document), Markup.parsePage text base = .ok page →
      ∀ e ∈ page.root.descendants, e.IsUnslashed := by
  refine ⟨fun v root h => ?_, fun text base page => Markup.isUnslashed_of_parsePage⟩
  have hnodup := nodup_walk v (stepName root) root h
  refine ⟨map_element_walk v (stepName root) root, hnodup, ?_⟩
  intro r record c d hd
  obtain ⟨p, hp, hpath⟩ := Renderer.only_renderAt r _ (analyze v root) d hd
  exact List.count_eq_one_of_mem hnodup (hpath ▸ List.mem_map_of_mem hp)

def shelf : Element :=
  .mk (.named "ul") [] "" [(.mk (.named "li[1]") [("itemprop", "name")] "" [], ""),
    (.mk (.named "LI[1]") [("itemprop", "books[]")] "" [], "")]

theorem paths_identify_shelf :
    (∀ e ∈ shelf.descendants, e.IsUnslashed) ∧
    (analyze {} shelf).walk.map Pattern.path = ["ul", "ul/li[1][1]", "ul/li[1][2]"] ∧
    ∃ es d, (({} : Renderer).render (analyze {} shelf) (.record [(.text "books", .text "Emma")])
        (.ofRoot .none [] "")).run = .ok (es, [d]) ∧ d.path = "ul/li[1][2]" ∧
      ((analyze {} shelf).walk.map Pattern.path).count d.path = 1 := by
  have hnames : ∀ e ∈ shelf.descendants, e.IsUnslashed := by
    have htags : shelf.descendants.map Element.tag =
        [.named "ul", .named "li[1]", .named "LI[1]"] := rfl
    intro e he name hname
    have hmem := List.mem_map_of_mem (f := Element.tag) he
    rw [htags, hname] at hmem
    simp only [List.mem_cons, Tag.named.injEq, List.not_mem_nil, or_false] at hmem
    rcases hmem with rfl | rfl | rfl <;> decide
  obtain ⟨es, d, hrun, hpath⟩ : ∃ es d, (({} : Renderer).render (analyze {} shelf)
      (.record [(.text "books", .text "Emma")]) (.ofRoot .none [] "")).run = .ok (es, [d]) ∧
      d.path = "ul/li[1][2]" := ⟨_, _, rfl, by decide +kernel⟩
  refine ⟨hnames, by decide +kernel, es, d, hrun, hpath, ?_⟩
  have hd : d ∈ (({} : Renderer).render (analyze {} shelf)
      (.record [(.text "books", .text "Emma")]) (.ofRoot .none [] "")).report := by
    rw [Reported.run_eq_ok.mp hrun]
    exact List.mem_singleton_self d
  exact (paths_identify.1 {} shelf hnames).2.2 _ _ _ d hd

end Pattern
end Microdata
