import Mathlib.Data.List.Forall2
import Microdata.Binding.Render
set_option autoImplicit false

/-!
The text around the children of a pattern. Main statement: `content_rendered`, an element that is
rendered from children holds the text of its template, and for each child of the template all that
it gives and then the text behind it, once and in order. Texts that meet become one, so contents are
compared as pieces that are `joined`.
-/

namespace Microdata

inductive Piece where
  | text (s : String)
  | element (e : Element)

namespace Piece

def glue (s : String) : List Piece → List Piece
  | .text t :: more => .text (s ++ t) :: more
  | more => if s = "" then more else .text s :: more

/-- Neighbouring texts made one, and empty ones left out. -/
def joined : List Piece → List Piece
  | [] => []
  | .element e :: rest => .element e :: joined rest
  | .text s :: rest => glue s (joined rest)

theorem joined_append {b c : List Piece} (a : List Piece) (h : joined b = joined c) :
    joined (a ++ b) = joined (a ++ c) := by
  induction a with
  | nil => exact h
  | cons p a ih => cases p <;> simp only [List.cons_append, joined, ih]

@[simp] theorem glue_empty (l : List Piece) : glue "" l = l := by
  unfold glue
  split <;> simp

theorem glue_glue (s t : String) (l : List Piece) : glue s (glue t l) = glue (s ++ t) l := by
  match l with
  | .text u :: more => simp [glue, String.append_assoc]
  | [] | .element e :: more =>
    by_cases ht : t = ""
    · simp [glue, ht]
    · simp [glue, ht]

@[simp] theorem joined_empty (rest : List Piece) : joined (.text "" :: rest) = joined rest :=
  glue_empty _

theorem joined_texts (s t : String) (rest : List Piece) :
    joined (.text s :: .text t :: rest) = joined (.text (s ++ t) :: rest) :=
  glue_glue s t _

end Piece

open Piece

namespace Element

def pieces (e : Element) : List Piece :=
  .text e.text :: e.children.flatMap fun c => [.element c.1, .text c.2]

theorem pieces_append (e : Element) (c : Child) :
    (e.append c).pieces = e.pieces ++ [.element c.1, .text c.2] := by
  simp [pieces, append]

theorem joined_appendToLast (text : String) (c : Child) (cs : List Child) (rest : List Piece) :
    joined ((appendToLast text (c :: cs)).flatMap (fun c => [.element c.1, .text c.2]) ++ rest) =
      joined ((c :: cs).flatMap (fun c => [.element c.1, .text c.2]) ++ .text text :: rest) := by
  induction cs generalizing c with
  | nil => simp [appendToLast, joined, glue_glue]
  | cons d cs ih => simpa [appendToLast, joined] using congrArg (glue c.2) (ih d)

theorem joined_appendText (e : Element) (text : String) (rest : List Piece) :
    joined ((e.appendText text).pieces ++ rest) = joined (e.pieces ++ .text text :: rest) := by
  obtain ⟨tag, attributes, s, cs⟩ := e
  cases cs with
  | nil => exact (joined_texts s text rest).symm
  | cons c cs => exact congrArg (glue s) (joined_appendToLast text c cs rest)

end Element

namespace Renderer

theorem joined_appendAll (e : Element) (tail : String) (es : List Element) (rest : List Piece) :
    joined ((appendAll e tail es).pieces ++ rest) =
      joined (e.pieces ++ (es.map .element ++ .text tail :: rest)) := by
  induction es generalizing e with
  | nil => exact e.joined_appendText tail rest
  | cons first es ih =>
    cases es with
    | nil => simp [appendAll, Element.pieces_append]
    | cons second es =>
      have hempty := joined_append (e.pieces ++ [.element first])
        (joined_empty ((second :: es).map .element ++ .text tail :: rest))
      rw [appendAll, ih, Element.pieces_append]
      · simpa using hempty
      · simp

/-- What the children of a template contribute: all that each of them gives, and the text behind
it. -/
def assembled (children : List (Pattern × String)) (outputs : List (List Element)) : List Piece :=
  (children.zip outputs).flatMap fun (c, es) => es.map .element ++ [.text c.2]

structure SameContent (a b : Element) : Prop where
  text : a.text = b.text
  children : a.children = b.children

theorem SameContent.refl (e : Element) : SameContent e e := ⟨rfl, rfl⟩

theorem SameContent.trans {a b c : Element} (h : SameContent a b) (h' : SameContent b c) :
    SameContent a c :=
  ⟨h.text.trans h'.text, h.children.trans h'.children⟩

theorem SameContent.pieces {a b : Element} (h : SameContent a b) : a.pieces = b.pieces := by
  simp only [Element.pieces, h.text, h.children]

section

variable {r : Renderer} {s : Shape} {ctx : Context} {record : Value} {e e' : Element}
  {ds : List Diagnostic}

theorem sameContent_fillAttributes (templates : List (String × String))
    (h : fillAttributes record e templates = .ok e') : SameContent e' e := by
  induction templates generalizing e with
  | nil =>
    obtain rfl : e = e' := by simpa [fillAttributes] using h
    exact .refl e
  | cons p rest ih =>
    obtain ⟨v, -, hr⟩ := bind_eq_ok.mp h
    exact (ih hr).trans ⟨rfl, rfl⟩

theorem sameContent_start (h : (r.start s record).run = .ok (e, ds)) :
    SameContent e s.element.shell := by
  obtain ⟨hf, -⟩ := Reported.run_lift_eq_ok.mp h
  refine (sameContent_fillAttributes s.placeholders hf).trans ?_
  split <;> exact ⟨rfl, rfl⟩

theorem sameContent_markIdentity (h : (r.markIdentity s ctx record e).run = .ok (e', ds)) :
    SameContent e' e := by
  obtain rfl | ⟨-, location, rfl⟩ := eq_or_located_of_markIdentity h
  · exact .refl _
  · exact ⟨rfl, rfl⟩

theorem sameContent_marked
    (h : (r.markIdentity s ctx record e >>= fun e => .ok (some e)).run = .ok (some e', ds)) :
    SameContent e' e := by
  obtain ⟨marked, _, _, hmark, h, -⟩ := Reported.run_bind_eq_ok.mp h
  obtain ⟨h, -⟩ := Reported.run_ok_eq_ok.mp h
  exact Option.some.inj h ▸ sameContent_markIdentity hmark

/-- An element that is rendered from children: they are put on a copy that was started for a
record. -/
inductive Rendered (r : Renderer) (s : Shape) (below : Below) (inner : Context) (e : Element) : Prop
  | intro (record : Value) (started filled : Element) (ds more : List Diagnostic)
    (start : (r.start s record).run = .ok (started, ds))
    (below : (below inner started).run = .ok (filled, more))
    (content : SameContent e filled)

/-- An element that stands for a property and is not rendered from children: the children of the
template are copied as they are, and a value may be written on the copy. Under a filter only leaves
are. -/
inductive Copied (r : Renderer) (s : Shape) (e : Element) : Prop
  | intro (property : s.property.isSome) (filter : s.filter = none ∨ s.element.children = [])
    (record : Value) (started copy : Element)
    (ds : List Diagnostic) (start : (r.start s record).run = .ok (started, ds))
    (kept : copy = withOwnChildren s started ∨
      ∃ v, r.setters.write (withOwnChildren s started) v = .ok copy)
    (content : SameContent e copy)

abbrev Accounted (r : Renderer) (s : Shape) (below : Below) (e : Element) : Prop :=
  (∃ inner, Rendered r s below inner e) ∨ Copied r s e

structure LeavesAlone (s : Shape) (below : Below) : Prop where
  children : s.element.children = []
  below : ∀ inner e, below inner e = .ok e

theorem withOwnChildren_of_leaf (h : s.element.children = []) (e : Element) :
    withOwnChildren s e = e := by
  obtain ⟨tag, attributes, text, children⟩ := e
  simp [withOwnChildren, h]

theorem cases_writePlain {v : Value} (h : (r.writePlain e v).run = .ok (e', ds)) :
    e' = e ∨ r.setters.write e v = .ok e' := by
  unfold writePlain at h
  split at h
  · exact .inl (Reported.run_ok_eq_ok.mp h).1.symm
  · exact .inl (Reported.run_ok_eq_ok.mp h).1.symm
  · exact .inr (Reported.run_lift_eq_ok.mp h).1

variable {isLeaf : Bool} {below : Below}

theorem accounted_renderMatch (hleaf : isLeaf = true → LeavesAlone s below)
    (h : (r.renderMatch s isLeaf below ctx record).run = .ok (some e, ds)) :
    Accounted r s below e := by
  obtain ⟨verdict, _, _, -, h, -⟩ := Reported.run_bind_eq_ok.mp h
  split at h
  case isFalse => simp at h
  obtain ⟨entered, _, _, -, h, -⟩ := Reported.run_bind_eq_ok.mp h
  cases entered with
  | none => simp at h
  | some inner =>
    obtain ⟨started, _, _, hstart, h, -⟩ := Reported.run_bind_eq_ok.mp h
    obtain ⟨filled, _, _, hbelow, h, -⟩ := Reported.run_bind_eq_ok.mp h
    cases isLeaf with
    | false =>
      simp only [Reported.ok_bind] at h
      exact .inl ⟨inner, _, _, _, _, _, hstart, hbelow, sameContent_marked h⟩
    | true =>
      -- a leaf: nothing has been put on the copy when the value is written
      have hl := hleaf rfl
      cases hp : s.property with
      | none =>
        simp only [hp, Reported.ok_bind] at h
        exact .inl ⟨inner, _, _, _, _, _, hstart, hbelow, sameContent_marked h⟩
      | some p =>
        simp only [hp] at h
        obtain ⟨written, _, _, hwrite, h, -⟩ := Reported.run_bind_eq_ok.mp h
        have hcontent := sameContent_marked h
        obtain rfl | hw := cases_writePlain hwrite
        · exact .inl ⟨inner, _, _, _, _, _, hstart, hbelow, hcontent⟩
        · rw [hl.below] at hbelow
          obtain ⟨rfl, -⟩ := Reported.run_ok_eq_ok.mp hbelow
          rw [← withOwnChildren_of_leaf hl.children started] at hw
          exact .inr ⟨by simp [hp], .inr hl.children, _, _, written, _, hstart, .inr ⟨_, hw⟩,
            hcontent⟩

theorem accounted_renderItem {item : Value} (hp : s.property.isSome) (hf : s.filter = none)
    (h : (r.renderItem s isLeaf below ctx item).run = .ok (some e, ds)) :
    Accounted r s below e := by
  unfold renderItem at h
  split at h
  · obtain ⟨entered, _, _, -, h, -⟩ := Reported.run_bind_eq_ok.mp h
    split at h
    · simp at h
    rename_i inner
    obtain ⟨started, _, _, hstart, h, -⟩ := Reported.run_bind_eq_ok.mp h
    obtain ⟨filled, _, _, hbelow, h, -⟩ := Reported.run_bind_eq_ok.mp h
    exact .inl ⟨inner, _, _, _, _, _, hstart, hbelow, sameContent_marked h⟩
  · obtain ⟨started, _, _, hstart, h, -⟩ := Reported.run_bind_eq_ok.mp h
    dsimp only at h
    split at h
    · rw [Reported.ok_bind] at h
      exact .inr ⟨hp, .inl hf, _, _, _, _, hstart, .inl rfl, sameContent_marked h⟩
    · obtain ⟨copy, _, _, hcopy, h, -⟩ := Reported.run_bind_eq_ok.mp h
      have hcopy := (Reported.run_lift_eq_ok.mp hcopy).1
      exact .inr ⟨hp, .inl hf, _, _, copy, _, hstart, .inr ⟨_, hcopy⟩, sameContent_marked h⟩

theorem accounted_renderList {property : String} (hp : s.property.isSome) (hf : s.filter = none)
    {es : List Element} (h : (r.renderList s isLeaf below ctx property).run = .ok (es, ds))
    (he : e ∈ es) : Accounted r s below e := by
  unfold renderList at h
  split at h
  · obtain ⟨started, _, _, hstart, h, -⟩ := Reported.run_bind_eq_ok.mp h
    obtain ⟨rfl, -⟩ := Reported.run_ok_eq_ok.mp h
    obtain rfl := List.mem_singleton.mp he
    exact .inr ⟨hp, .inl hf, _, _, _, _, hstart, .inl rfl, .refl _⟩
  · obtain ⟨item, -, _, hitem⟩ := Reported.exists_of_filterMap h he
    exact accounted_renderItem hp hf hitem
  · obtain ⟨item, -, _, hitem⟩ := Reported.exists_of_filterMap h he
    exact accounted_renderItem hp hf hitem
  · obtain ⟨_, _, _, -, h, -⟩ := Reported.run_bind_eq_ok.mp h
    obtain ⟨rfl, -⟩ := Reported.run_ok_eq_ok.mp h
    cases he

theorem accounted_renderNested {property : String} {v nested : Value} {linked : Bool}
    (hp : s.property.isSome) (hf : s.filter = none) {record : Value} {started : Element}
    {more : List Diagnostic}
    (hstart : (r.start s record).run = .ok (started, more))
    (h : (r.renderNested s below ctx property v linked nested started).run = .ok (e, ds)) :
    Accounted r s below e := by
  have hcopy (he : withOwnChildren s started = e) : Accounted r s below e :=
    .inr ⟨hp, .inl hf, _, _, e, _, hstart, .inl he.symm, .refl e⟩
  unfold renderNested at h
  split at h
  · obtain ⟨_, _, _, -, h, -⟩ := Reported.run_bind_eq_ok.mp h
    exact hcopy (Reported.run_ok_eq_ok.mp h).1
  · obtain ⟨entered, _, _, -, h, -⟩ := Reported.run_bind_eq_ok.mp h
    split at h
    · exact hcopy (Reported.run_ok_eq_ok.mp h).1
    · rename_i inner
      obtain ⟨filled, _, _, hbelow, hmark, -⟩ := Reported.run_bind_eq_ok.mp h
      exact .inl ⟨inner, _, _, _, _, _, hstart, hbelow, sameContent_markIdentity hmark⟩
  · obtain ⟨_, _, _, -, h, -⟩ := Reported.run_bind_eq_ok.mp h
    exact hcopy (Reported.run_ok_eq_ok.mp h).1

theorem accounted_renderSingle (hf : s.filter = none)
    (h : (r.renderSingle s below ctx).run = .ok (e, ds)) :
    Accounted r s below e := by
  obtain ⟨started, _, _, hstart, h, -⟩ := Reported.run_bind_eq_ok.mp h
  cases hp : s.property with
  | none =>
    simp only [hp] at h
    obtain ⟨filled, _, _, hbelow, hmark, -⟩ := Reported.run_bind_eq_ok.mp h
    exact .inl ⟨ctx, _, _, _, _, _, hstart, hbelow, sameContent_markIdentity hmark⟩
  | some p =>
    simp only [hp] at h
    have hsome : s.property.isSome := by simp [hp]
    have hcopy (he : e = withOwnChildren s started) : Accounted r s below e :=
      .inr ⟨hsome, .inl hf, _, _, e, _, hstart, .inl he, .refl e⟩
    split at h
    · unfold renderScope at h
      split at h
      · exact hcopy (Reported.run_ok_eq_ok.mp h).1.symm
      · split at h <;> exact accounted_renderNested hsome hf hstart h
    · obtain he | hw := cases_writePlain h
      · exact hcopy he
      · exact .inr ⟨hsome, .inl hf, _, _, e, _, hstart, .inr ⟨_, hw⟩, .refl e⟩

theorem accounted_renderBound (hf : s.filter = none) {es : List Element}
    (h : (r.renderBound s isLeaf below ctx).run = .ok (es, ds)) (he : e ∈ es) :
    Accounted r s below e := by
  unfold renderBound at h
  split at h
  · rename_i hp
    exact accounted_renderList (by simp [hp]) hf h he
  · obtain ⟨single, _, _, hsingle, h, -⟩ := Reported.run_bind_eq_ok.mp h
    obtain ⟨rfl, -⟩ := Reported.run_ok_eq_ok.mp h
    obtain rfl := List.mem_singleton.mp he
    exact accounted_renderSingle hf hsingle

theorem accounted_renderShape (hleaf : isLeaf = true → LeavesAlone s below) {es : List Element}
    (h : (r.renderShape s isLeaf below ctx).run = .ok (es, ds)) (he : e ∈ es) :
    Accounted r s below e := by
  unfold renderShape at h
  split at h
  · obtain ⟨_, -, h⟩ := Reported.run_lift_bind_eq_ok.mp h
    obtain ⟨record, -, _, hmatch⟩ := Reported.exists_of_filterMap h he
    exact accounted_renderMatch hleaf hmatch
  · rename_i hf
    obtain ⟨verdict, _, _, -, h, -⟩ := Reported.run_bind_eq_ok.mp h
    have hnil {ds : List Diagnostic} (h : (Reported.ok []).run = .ok (es, ds)) :
        Accounted r s below e := by
      obtain ⟨rfl, -⟩ := Reported.run_ok_eq_ok.mp h
      cases he
    split at h
    · split at h
      · exact accounted_renderBound hf h he
      · obtain ⟨entered, _, _, -, h, -⟩ := Reported.run_bind_eq_ok.mp h
        split at h
        · exact hnil h
        · exact accounted_renderBound hf h he
    · exact hnil h

theorem joined_renderBelow {children : List (Pattern × String)}
    (h : (r.renderBelow ctx e children).run = .ok (e', ds)) :
    ∃ outputs, List.Forall₂
        (fun (c : Pattern × String) es => ∃ ds, (r.renderAt ctx c.1).run = .ok (es, ds))
        children outputs ∧
      joined e'.pieces = joined (e.pieces ++ assembled children outputs) := by
  induction children generalizing e ds with
  | nil =>
    rw [renderBelow] at h
    obtain ⟨rfl, -⟩ := Reported.run_ok_eq_ok.mp h
    exact ⟨[], .nil, by simp [assembled]⟩
  | cons c rest ih =>
    rw [renderBelow] at h
    obtain ⟨es, _, _, hfirst, h, -⟩ := Reported.run_bind_eq_ok.mp h
    obtain ⟨outputs, hall, hjoined⟩ := ih h
    refine ⟨es :: outputs, .cons ⟨_, hfirst⟩ hall, ?_⟩
    rw [hjoined, joined_appendAll]
    simp [assembled]

end

variable {v : Vocabulary} {root : Element} {p : Pattern}

/-- An element that is rendered from the children of a pattern holds the text of the template, and
for each child of the template all that it gives and then the text behind it; every other element
of the output stands for a property. -/
theorem content_rendered (hp : p ∈ (Pattern.analyze v root).walk) (r : Renderer) (ctx : Context)
    {es : List Element} {ds : List Diagnostic} (h : (r.renderAt ctx p).run = .ok (es, ds))
    {e : Element} (he : e ∈ es) :
    p.children.map (fun c => (c.1.shape.element, c.2)) = p.shape.element.children ∧
      ((∃ inner, Rendered r p.shape (fun inner e => r.renderBelow inner e p.children) inner e) ∨
        Copied r p.shape e) ∧
      ∀ inner, Rendered r p.shape (fun inner e => r.renderBelow inner e p.children) inner e →
        ∃ outputs, List.Forall₂
            (fun (c : Pattern × String) es => ∃ ds, (r.renderAt inner c.1).run = .ok (es, ds))
            p.children outputs ∧
          joined e.pieces =
            joined (.text p.shape.element.text :: assembled p.children outputs) := by
  obtain ⟨path, inner, rfl⟩ := Pattern.exists_of_mem_walk v _ root hp
  have haligned : (Pattern.analyzeAt v path inner).children.map
      (fun c => (c.1.shape.element, c.2)) =
        (Pattern.analyzeAt v path inner).shape.element.children := by
    rw [Pattern.children_analyzeAt, Pattern.map_analyzeChildren, Pattern.shape_analyzeAt]
    rfl
  generalize Pattern.analyzeAt v path inner = p at h haligned ⊢
  obtain ⟨s, children⟩ := p
  refine ⟨haligned, ?_, ?_⟩
  · rw [renderAt] at h
    refine accounted_renderShape (fun hnil => ?_) h he
    obtain rfl := List.isEmpty_iff.mp hnil
    exact ⟨by simpa [Pattern.children] using haligned.symm, fun inner e => by
      simp only [Pattern.children, renderBelow]⟩
  · rintro inner ⟨record, started, filled, _, _, hstart, hbelow, hcontent⟩
    obtain ⟨outputs, hall, hjoined⟩ := joined_renderBelow hbelow
    refine ⟨outputs, hall, ?_⟩
    rw [hcontent.pieces, hjoined, (sameContent_start hstart).pieces]
    rfl

def greeting : Element :=
  .mk (.named "p") [] "Dear "
    [(.mk (.named "b") [("itemprop", "name")] "" [], ", "),
      (.mk (.named "i") [("data-scope", "knows")] "you know" [], "about "),
      (.mk (.named "u") [("itemprop", "topics[]")] "" [], ".")]

def guest : Value :=
  .record [(.text "@id", .text "ann"), (.text "name", .text "Ann"),
    (.text "topics", .list [.text "tea", .text "rain"])]

def greeted : Element :=
  .mk (.named "p") [] "Dear "
    [(.mk (.named "b") [("itemprop", "name")] "Ann" [], ", about "),
      (.mk (.named "u") [("itemprop", "topics")] "tea" [], ""),
      (.mk (.named "u") [("itemprop", "topics")] "rain" [], ".")]

theorem content_greeting :
    Pattern.analyze {} greeting ∈ (Pattern.analyze {} greeting).walk ∧
      (({} : Renderer).renderAt (.ofRoot guest [guest] "") (Pattern.analyze {} greeting)).run =
        .ok ([greeted], []) ∧
      ∃ inner outputs, List.Forall₂
          (fun (c : Pattern × String) es => ∃ ds,
            (({} : Renderer).renderAt inner c.1).run = .ok (es, ds))
          (Pattern.analyze {} greeting).children outputs ∧
        joined greeted.pieces =
          joined (.text "Dear " :: assembled (Pattern.analyze {} greeting).children outputs) := by
  have hp : Pattern.analyze {} greeting ∈ (Pattern.analyze {} greeting).walk :=
    List.mem_cons_self ..
  have h : (({} : Renderer).renderAt (.ofRoot guest [guest] "")
      (Pattern.analyze {} greeting)).run = .ok ([greeted], []) := rfl
  obtain ⟨-, hkind, hcontent⟩ := content_rendered hp {} (.ofRoot guest [guest] "") h
    (List.mem_singleton_self greeted)
  obtain ⟨inner, hr⟩ | ⟨hproperty, _⟩ := hkind
  · exact ⟨hp, h, inner, hcontent inner hr⟩
  · exact absurd hproperty (by decide)

end Renderer
end Microdata
