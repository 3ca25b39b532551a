import Mathlib.Data.List.Forall2
import Microdata.Proofs.Binding.Places
set_option autoImplicit false

/-!
How often a pattern is repeated. Each record that a filter finds, and each item of a list, has one
of three fates (`Reported.Fate`): there is a copy for it, its constraint fails, or a guard refuses
it and says so where the pattern stands; what is rendered below speaks of other places. Main
statement: `repetition_conserves`, the copies stand one to one and in order for what is neither lost
nor refused, and all of them together are as many as there were.
-/

namespace Microdata

namespace Reported

variable {α β : Type}

def Gives (x : Reported α) (a : α) : Prop := ∃ ds, x.run = .ok (a, ds)

theorem Only.countP_eq_zero {kind : Diagnostic → Bool} {x : Reported α} {a : α}
    {ds : List Diagnostic} (hx : Only (fun d => kind d = false) x) (h : x.run = .ok (a, ds)) :
    ds.countP kind = 0 :=
  List.countP_eq_zero.mpr fun d hd => by simp [hx.of_run h d hd]

/-- What becomes of an item: something is made of it, it is lost, or it is refused and that is
reported once. -/
inductive Fate (kind : Diagnostic → Bool) (lost refused : α → Bool) (Made : α → β → Prop) (a : α) :
    Option β → List Diagnostic → Prop
  | made {b : β} {ds : List Diagnostic} (kept : lost a = false) (free : refused a = false)
    (isMade : Made a b) (silent : ds.countP kind = 0) : Fate kind lost refused Made a (some b) ds
  | lost {ds : List Diagnostic} (isLost : lost a = true) (silent : ds.countP kind = 0) :
    Fate kind lost refused Made a none ds
  | refused {ds : List Diagnostic} (kept : lost a = false) (isRefused : refused a = true)
    (reported : ds.countP kind = 1) : Fate kind lost refused Made a none ds

/-- Nothing is made twice or of nothing, and nothing is missing. -/
theorem conserves_filterMap {kind : Diagnostic → Bool} {lost refused : α → Bool}
    {Made : α → β → Prop} {f : α → Reported (Option β)}
    (hf : ∀ a b ds, (f a).run = .ok (b, ds) → Fate kind lost refused Made a b ds) {l : List α}
    {bs : List β} {ds : List Diagnostic} (h : (filterMap f l).run = .ok (bs, ds)) :
    List.Forall₂ Made (l.filter fun a => !lost a && !refused a) bs ∧
      bs.length + l.countP lost + ds.countP kind = l.length := by
  induction l generalizing bs ds with
  | nil =>
    obtain ⟨rfl, rfl⟩ := run_ok_eq_ok.mp h
    exact ⟨.nil, rfl⟩
  | cons a l ih =>
    obtain ⟨b, first, _, ha, hrest, rfl⟩ := run_bind_eq_ok.mp h
    obtain ⟨rest, more, _, hl, hall, rfl⟩ := run_bind_eq_ok.mp hrest
    obtain ⟨rfl, rfl⟩ := run_ok_eq_ok.mp hall
    obtain ⟨hmade, hcount⟩ := ih hl
    cases hf a b first ha with
    | made kept free isMade silent =>
      refine ⟨by simpa [kept, free] using ⟨isMade, hmade⟩, ?_⟩
      simp [kept, silent]
      omega
    | lost isLost silent =>
      refine ⟨by simpa [isLost] using hmade, ?_⟩
      simp [isLost, silent]
      omega
    | refused kept isRefused reported =>
      refine ⟨by simpa [kept, isRefused] using hmade, ?_⟩
      simp [kept, reported]
      omega

end Reported

open Reported

def Diagnostic.refusesAt (path : String) (d : Diagnostic) : Bool := d.isGuard && d.path == path

def Diagnostic.tooDeepAt (path : String) (d : Diagnostic) : Bool :=
  d.code == "BIND006" && d.path == path

namespace Diagnostic

variable {d : Diagnostic} {path : String}

theorem refusesAt_of_ne (h : d.path ≠ path) : d.refusesAt path = false := by simp [refusesAt, h]

theorem IsVerdictAt.refusesAt {place : String} (h : d.IsVerdictAt place) :
    d.refusesAt path = false := by
  simp [Diagnostic.refusesAt, h.2]

theorem tooDeepAt_eq_false (h : d.refusesAt path = false) : d.tooDeepAt path = false := by
  rw [refusesAt, isGuard, Bool.and_eq_false_iff, Bool.or_eq_false_iff] at h
  rw [tooDeepAt, Bool.and_eq_false_iff]
  exact h.imp And.left id

end Diagnostic

theorem Marker.filter_pointsAt (m : Marker) (property : String) (identifier : Value)
    (batch : List Value) :
    batch.filter (m.pointsAt property identifier) = m.referencing property identifier batch := by
  unfold referencing
  split
  · rfl
  · rename_i h
    simp [pointsAt, refersTo, h]

namespace Renderer

def fails (r : Renderer) (s : Shape) (batch : List Value) (record : Value) : Bool :=
  match (r.judge s record batch).run with
  | .ok (verdict, _) => !verdict.passed
  | .error _ => false

def taken (r : Renderer) (s : Shape) (batch : List Value) (record : Value) : Value :=
  match (r.judge s record batch).run with
  | .ok (verdict, _) => (verdict.resolved.map Value.record).getD record
  | .error _ => record

def refuses (r : Renderer) (c : Context) (record : Value) (linked : Bool) : Bool :=
  (linked && c.isCycle record) || decide (r.config.maxDepth ≤ c.depth)

def writeLeaf (r : Renderer) (s : Shape) (isLeaf : Bool) (record : Value) (e : Element) :
    Reported Element :=
  match isLeaf, s.property with
  | true, some property => r.writePlain e (valueOf record property)
  | _, _ => .ok e

/-- The context of a pattern without a filter whose constraint has passed: it stays, or the record
that the constraint asks for has been entered. -/
inductive Active (r : Renderer) (s : Shape) (c : Context) : Context → Prop
  | own {verdict : Verdict} {ds : List Diagnostic}
    (judged : (r.judge s c.current c.batch).run = .ok (verdict, ds)) (passed : verdict.passed)
    (resolved : verdict.resolved = none) : Active r s c c
  | requested {verdict : Verdict} {ds : List Diagnostic} {fields : Fields}
    (judged : (r.judge s c.current c.batch).run = .ok (verdict, ds)) (passed : verdict.passed)
    (resolved : verdict.resolved = some fields)
    (entered : r.refuses c (.record fields) true = false) :
    Active r s c (c.descend (.record fields) true)

section

variable (r : Renderer) (s : Shape) (isLeaf : Bool) (below : Below) (c : Context)

def matchCopy (inner : Context) (record : Value) : Reported Element := do
  let e ← r.start s record
  let e ← below inner e
  let e ← r.writeLeaf s isLeaf record e
  r.markIdentity s c record e

/-- Whether an item of a list is entered: a record is, if there are children for it. -/
def enters (item : Value) : Bool := item.isRecord && !isLeaf

def writeItem (item : Value) (e : Element) : Reported Element :=
  match item with
  | .none => .ok (withOwnChildren s e)
  | item => r.write (withOwnChildren s e) item

def itemCopy (inner : Context) (item : Value) : Reported Element :=
  if enters isLeaf item then do
    let e ← r.start s item
    let e ← below inner e
    r.markIdentity s c item e
  else do
    let e ← r.start s (if item.isRecord then item else c.current)
    let e ← r.writeItem s item e
    r.markIdentity s c item e

/-- An element is the copy for a record that a filter has found, or for the one that the constraint
puts in its place. -/
def IsMatchCopy (record : Value) (e : Element) : Prop :=
  Gives (r.matchCopy s isLeaf below c (c.descend (r.taken s c.batch record) true)
    (r.taken s c.batch record)) e

/-- An element is the copy for an item of a list. -/
def IsItemCopy (item : Value) (e : Element) : Prop :=
  Gives (r.itemCopy s isLeaf below c (c.descend item false) item) e

def inside (record : Value) (linked : Bool) (copy : Context → Reported Element) :
    Reported (Option Element) := do
  match ← r.enter s c record linked with
  | none => .ok none
  | some inner => do
    let e ← copy inner
    .ok (some e)

theorem renderMatch_eq_inside (record : Value) :
    r.renderMatch s isLeaf below c record = r.judge s record c.batch >>= fun verdict =>
      let record := (verdict.resolved.map Value.record).getD record
      if verdict.passed then
        r.inside s c record true fun inner => r.matchCopy s isLeaf below c inner record
      else .ok none := by
  unfold renderMatch inside matchCopy writeLeaf
  simp only [Reported.bind_assoc]
  cases isLeaf with
  | false => rfl
  | true => cases s.property <;> rfl

theorem renderItem_eq_inside (item : Value) :
    r.renderItem s isLeaf below c item =
      if enters isLeaf item then
        r.inside s c item false fun inner => r.itemCopy s isLeaf below c inner item
      else r.itemCopy s isLeaf below c c item >>= fun e => .ok (some e) := by
  unfold renderItem inside itemCopy
  cases h : enters isLeaf item with
  | true =>
    rw [enters] at h
    rw [if_pos h, if_pos rfl]
    refine congrArg (r.enter s c item false >>= ·) (funext fun entered => ?_)
    cases entered with
    | none => rfl
    | some inner => simp only [if_true, Reported.bind_assoc]
  | false =>
    rw [enters] at h
    simp only [h, Bool.false_eq_true, if_false, Reported.bind_assoc]
    cases item <;> rfl

end

variable {r : Renderer} {s : Shape} {isLeaf : Bool} {below : Below} {c : Context}

theorem enter_fate {v : Value} {linked : Bool} {entered : Option Context} {ds : List Diagnostic}
    (h : (r.enter s c v linked).run = .ok (entered, ds)) :
    (r.refuses c v linked = false ∧ entered = some (c.descend v linked) ∧ ds = []) ∨
      r.refuses c v linked = true ∧ entered = none ∧ ∃ d : Diagnostic, ds = [d] ∧
        d.refusesAt s.path = true ∧ (linked = false → d.tooDeepAt s.path = true) := by
  have hplace (d : Diagnostic) (hguard : d.isGuard = true) (hpath : d.path = s.path) :
      (d.promote r.config.strict).refusesAt s.path = true := by
    simp [Diagnostic.refusesAt, Diagnostic.isGuard_promote, hguard, hpath]
  obtain ⟨-, h⟩ := run_enter_eq_ok.mp h
  unfold allow at h
  split at h
  · rename_i hcycle
    cases h
    refine .inr ⟨by simp [refuses, hcycle], rfl, _, rfl, hplace (.cyclic v s.path) rfl rfl, ?_⟩
    rintro rfl
    simp at hcycle
  · rename_i hcycle
    split at h
    · rename_i hdepth
      cases h
      refine .inr ⟨by simp [refuses, hdepth], rfl, _, rfl,
        hplace (.tooDeep r.config.maxDepth s.path) rfl rfl, fun _ => ?_⟩
      unfold Diagnostic.promote
      split <;> simp [Diagnostic.tooDeepAt, Diagnostic.tooDeep]
    · rename_i hdepth
      obtain ⟨rfl, rfl⟩ := run_ok_eq_ok.mp h
      exact .inl ⟨by simp [refuses, hdepth, hcycle], rfl, rfl⟩

theorem only_writeLeaf {P : Diagnostic → Prop} (r : Renderer) (s : Shape) (isLeaf : Bool)
    (record : Value) (e : Element) : Only P (r.writeLeaf s isLeaf record e) := by
  unfold writeLeaf
  split
  · exact only_writePlain r e _
  · exact only_ok e

theorem only_writeItem {P : Diagnostic → Prop} (r : Renderer) (s : Shape) (item : Value)
    (e : Element) : Only P (r.writeItem s item e) := by
  unfold writeItem
  split
  · exact only_ok _
  · exact only_lift _

section

variable {P : Diagnostic → Prop} (hb : ∀ inner e, Only P (below inner e))
include hb

theorem only_matchCopy (inner : Context) (record : Value) :
    Only P (r.matchCopy s isLeaf below c inner record) :=
  (only_lift _).bind fun e => (hb inner e).bind fun e =>
    (only_writeLeaf r s isLeaf record e).bind fun e => only_markIdentity r s c record e

theorem only_itemCopy (inner : Context) (item : Value) :
    Only P (r.itemCopy s isLeaf below c inner item) := by
  unfold itemCopy
  split
  · exact (only_lift _).bind fun e => (hb inner e).bind fun e => only_markIdentity r s c item e
  · exact (only_lift _).bind fun e => (only_writeItem r s item e).bind fun e =>
      only_markIdentity r s c item e

end

theorem fate_inside {record : Value} {linked : Bool} {copy : Context → Reported Element}
    {x : Option Element} {ds : List Diagnostic}
    (hcopy : ∀ inner, Only (fun d => d.refusesAt s.path = false) (copy inner))
    (h : (r.inside s c record linked copy).run = .ok (x, ds)) :
    (r.refuses c record linked = false ∧ ∃ e, x = some e ∧
        Gives (copy (c.descend record linked)) e ∧ ∀ d ∈ ds, d.refusesAt s.path = false) ∨
      r.refuses c record linked = true ∧ x = none ∧ ∃ d, ds = [d] ∧ d.refusesAt s.path = true ∧
        (linked = false → d.tooDeepAt s.path = true) := by
  unfold inside at h
  obtain ⟨entered, first, last, hentered, hlast, rfl⟩ := run_bind_eq_ok.mp h
  obtain ⟨hfree, rfl, rfl⟩ | ⟨hrefused, rfl, d, rfl, hd⟩ := enter_fate hentered
  · obtain ⟨e, more, _, hmore, hmade, rfl⟩ := run_bind_eq_ok.mp hlast
    obtain ⟨rfl, rfl⟩ := run_ok_eq_ok.mp hmade
    refine .inl ⟨hfree, e, rfl, ⟨more, hmore⟩, ?_⟩
    rw [List.nil_append, List.append_nil]
    exact (hcopy _).of_run hmore
  · obtain ⟨rfl, rfl⟩ := run_ok_eq_ok.mp hlast
    exact .inr ⟨hrefused, rfl, d, rfl, hd⟩

section

variable (hb : ∀ inner e, Only (fun d => d.path ≠ s.path) (below inner e))
include hb

theorem fate_renderMatch {record : Value} {x : Option Element} {ds : List Diagnostic}
    (h : (r.renderMatch s isLeaf below c record).run = .ok (x, ds)) :
    Fate (Diagnostic.refusesAt s.path) (r.fails s c.batch)
      (fun record => r.refuses c (r.taken s c.batch record) true)
      (r.IsMatchCopy s isLeaf below c) record x ds := by
  rw [renderMatch_eq_inside] at h
  obtain ⟨verdict, first, rest, hjudge, hrest, rfl⟩ := run_bind_eq_ok.mp h
  have hfails : r.fails s c.batch record = !verdict.passed := by simp [fails, hjudge]
  have htaken : r.taken s c.batch record =
      (verdict.resolved.map Value.record).getD record := by simp [taken, hjudge]
  have hfirst : first.countP (Diagnostic.refusesAt s.path) = 0 :=
    ((only_judge r s record c.batch).mono fun _ hd => hd.refusesAt).countP_eq_zero hjudge
  dsimp only at hrest
  rw [← htaken] at hrest
  split at hrest
  case isFalse hfailed =>
    obtain ⟨rfl, rfl⟩ := run_ok_eq_ok.mp hrest
    exact .lost (by simpa [hfails] using hfailed) (by simp [hfirst])
  case isTrue hpassed =>
    have hkept : r.fails s c.batch record = false := by simp [hfails, hpassed]
    obtain ⟨hfree, e, rfl, hgives, hsilent⟩ | ⟨hrefused, rfl, d, rfl, hd, -⟩ :=
      fate_inside (fun inner => (only_matchCopy hb inner _).mono fun _ => Diagnostic.refusesAt_of_ne)
        hrest
    · refine .made hkept hfree hgives ?_
      have hmore := List.countP_eq_zero.mpr fun d hd => by simpa using hsilent d hd
      rw [List.countP_append, hfirst, hmore]
    · exact .refused hkept hrefused (by simp [hfirst, hd])

theorem fate_renderItem {item : Value} {x : Option Element} {ds : List Diagnostic}
    (h : (r.renderItem s isLeaf below c item).run = .ok (x, ds)) :
    Fate (Diagnostic.tooDeepAt s.path) (fun _ => false)
      (fun item => enters isLeaf item && r.refuses c item false)
      (r.IsItemCopy s isLeaf below c) item x ds := by
  have hcopy (inner : Context) : Only (fun d => d.refusesAt s.path = false)
      (r.itemCopy s isLeaf below c inner item) :=
    (only_itemCopy hb inner item).mono fun _ => Diagnostic.refusesAt_of_ne
  rw [renderItem_eq_inside] at h
  split at h
  case isTrue henters =>
    obtain ⟨hfree, e, rfl, hgives, hsilent⟩ | ⟨hrefused, rfl, d, rfl, -, hd⟩ := fate_inside hcopy h
    · refine .made rfl (by simp [hfree]) hgives (List.countP_eq_zero.mpr fun d hd => ?_)
      simp [Diagnostic.tooDeepAt_eq_false (hsilent d hd)]
    · exact .refused rfl (by simp [henters, hrefused]) (by simp [hd rfl])
  case isFalse henters =>
    obtain ⟨e, more, _, hmore, hlast, rfl⟩ := run_bind_eq_ok.mp h
    obtain ⟨rfl, rfl⟩ := run_ok_eq_ok.mp hlast
    have hsame : r.itemCopy s isLeaf below c (c.descend item false) item =
        r.itemCopy s isLeaf below c c item := by
      unfold itemCopy
      simp only [henters, Bool.false_eq_true, if_false]
    have hmade : r.IsItemCopy s isLeaf below c item e := by
      rw [IsItemCopy, hsame]
      exact ⟨more, hmore⟩
    refine .made rfl (by simp [henters]) hmade ?_
    rw [List.append_nil]
    exact ((hcopy c).mono fun _ => Diagnostic.tooDeepAt_eq_false).countP_eq_zero hmore

theorem conserves_matches {property : String} (hf : s.filter = some property) {es : List Element}
    {ds : List Diagnostic} (h : (r.renderShape s isLeaf below c).run = .ok (es, ds))
    {records : List Value}
    (hrecords : r.config.marker.referencing property (valueOf c.current idKey) c.batch = records) :
    List.Forall₂ (r.IsMatchCopy s isLeaf below c)
        (records.filter fun record =>
          !r.fails s c.batch record && !r.refuses c (r.taken s c.batch record) true) es ∧
      es.length + records.countP (r.fails s c.batch) + ds.countP (Diagnostic.refusesAt s.path) =
        records.length := by
  simp only [renderShape, hf, Marker.filter_pointsAt, hrecords] at h
  obtain ⟨_, -, h⟩ := run_lift_bind_eq_ok.mp h
  exact conserves_filterMap (fun _ _ _ => fate_renderMatch hb) h

omit hb in
theorem bound_of_active {inner : Context} (hf : s.filter = none) (hactive : Active r s c inner)
    {es : List Element} {ds : List Diagnostic}
    (h : (r.renderShape s isLeaf below c).run = .ok (es, ds)) :
    ∃ more, (r.renderBound s isLeaf below inner).run = .ok (es, more) ∧
      ds.countP (Diagnostic.tooDeepAt s.path) = more.countP (Diagnostic.tooDeepAt s.path) := by
  simp only [renderShape, hf] at h
  obtain ⟨verdict, first, more, hjudge, hmore, rfl⟩ := run_bind_eq_ok.mp h
  have hfirst : first.countP (Diagnostic.tooDeepAt s.path) = 0 :=
    ((only_judge r s c.current c.batch).mono fun _ hd =>
      Diagnostic.tooDeepAt_eq_false hd.refusesAt).countP_eq_zero hjudge
  refine ⟨more, ?_, by rw [List.countP_append, hfirst, Nat.zero_add]⟩
  cases hactive with
  | own judged passed resolved =>
    obtain ⟨rfl, -⟩ := Prod.mk.inj (Except.ok.inj (judged.symm.trans hjudge))
    simpa only [passed, if_true, resolved] using hmore
  | @requested _ _ fields judged passed resolved entered =>
    obtain ⟨rfl, -⟩ := Prod.mk.inj (Except.ok.inj (judged.symm.trans hjudge))
    simp only [passed, if_true, resolved] at hmore
    obtain ⟨_, _, last, hentered, hlast, rfl⟩ := run_bind_eq_ok.mp hmore
    obtain ⟨-, rfl, rfl⟩ | ⟨hrefused, -⟩ := enter_fate hentered
    · exact hlast
    · rw [entered] at hrefused
      cases hrefused

theorem conserves_items {property : String} {inner : Context} {items : List Value}
    (hf : s.filter = none) (harray : s.isArray = true) (hproperty : s.property = some property)
    (hactive : Active r s c inner)
    (hitems : valueOf inner.current property = .list items ∨
      valueOf inner.current property = .tuple items)
    {es : List Element} {ds : List Diagnostic}
    (h : (r.renderShape s isLeaf below c).run = .ok (es, ds)) :
    List.Forall₂ (r.IsItemCopy s isLeaf below inner)
        (items.filter fun item => !(enters isLeaf item && r.refuses inner item false)) es ∧
      es.length + ds.countP (Diagnostic.tooDeepAt s.path) = items.length := by
  obtain ⟨more, hbound, hcount⟩ := bound_of_active hf hactive h
  have hall :
      (Reported.filterMap (r.renderItem s isLeaf below inner) items).run = .ok (es, more) := by
    simp only [renderBound, harray, hproperty, renderList] at hbound
    obtain hitems | hitems := hitems
    · simpa only [hitems] using hbound
    · simpa only [hitems] using hbound
  rw [hcount]
  simpa using conserves_filterMap (fun _ _ _ => fate_renderItem hb) hall

end

/-- Repetition neither loses nor invents copies. Under a filter there is a copy for each record of
the batch that points at the record at hand, in order, but for those whose constraint fails and
those that a guard refuses; for a list there is one for each item that is not too deep. The path of
the pattern is enough to tell its own refusals from those below it. -/
theorem repetition_conserves {v : Vocabulary} {root : Element} {p : Pattern}
    (hp : p ∈ (Pattern.analyze v root).walk) (r : Renderer) (c : Context) {es : List Element}
    {ds : List Diagnostic} (h : (r.renderAt c p).run = .ok (es, ds)) :
    (∀ property, p.shape.filter = some property → ∀ records,
      r.config.marker.referencing property (valueOf c.current idKey) c.batch = records →
        List.Forall₂
            (r.IsMatchCopy p.shape p.children.isEmpty
              (fun inner e => r.renderBelow inner e p.children) c)
            (records.filter fun record => !r.fails p.shape c.batch record &&
              !r.refuses c (r.taken p.shape c.batch record) true) es ∧
          es.length + records.countP (r.fails p.shape c.batch) +
            ds.countP (Diagnostic.refusesAt p.path) = records.length) ∧
    (p.shape.filter = none → p.shape.isArray = true → ∀ property, p.shape.property = some property →
      ∀ inner, Active r p.shape c inner → ∀ items,
        (valueOf inner.current property = .list items ∨
          valueOf inner.current property = .tuple items) →
        List.Forall₂
            (r.IsItemCopy p.shape p.children.isEmpty
              (fun inner e => r.renderBelow inner e p.children) inner)
            (items.filter fun item =>
              !(enters p.children.isEmpty item && r.refuses inner item false)) es ∧
          es.length + ds.countP (Diagnostic.tooDeepAt p.path) = items.length) := by
  obtain ⟨path, e, rfl⟩ := Pattern.exists_of_mem_walk v _ root hp
  have hb (inner : Context) (copy : Element) :=
    Pattern.only_renderBelow_analyzeAt v path e r inner copy
  have hpath : (Pattern.analyzeAt v path e).shape.path = path := by
    rw [Pattern.shape_analyzeAt]
    rfl
  generalize Pattern.analyzeAt v path e = p at h hb hpath ⊢
  subst hpath
  obtain ⟨s, children⟩ := p
  rw [renderAt] at h
  refine ⟨fun property hf records hrecords => conserves_matches hb hf h hrecords, ?_⟩
  intro hf harray property hproperty inner hactive items hitems
  exact conserves_items hb hf harray hproperty hactive hitems h

def posts : Element :=
  .mk (.named "li") [("data-scope", "author"), ("data-constraint", "status == 'public'")] ""
    [(.mk (.named "b") [("itemprop", "title")] "" [], "")]

def writer : Value :=
  .record [(.text "@id", .text "ann"), (.text "author", .text "#ann"),
    (.text "status", .text "public")]

def post (status title : String) : Value :=
  .record [(.text "author", .text "ann"), (.text "status", .text status),
    (.text "title", .text title)]

def feed : List Value := [writer, post "public" "Tea", post "draft" "Rain", .text "ann"]

def found : List Value := [writer, post "public" "Tea", post "draft" "Rain"]

/-- One post is shown, the draft is lost, and the writer, who is a writer of theirs, is refused. -/
theorem repetition_conserves_posts :
    Pattern.analyze {} posts ∈ (Pattern.analyze {} posts).walk ∧
    ({} : Renderer).config.marker.referencing "author" (.text "ann") feed = found ∧
    ∃ es ds, (({} : Renderer).renderAt (.ofRoot writer feed "") (Pattern.analyze {} posts)).run =
        .ok (es, ds) ∧
      es.length = 1 ∧ found.countP (({} : Renderer).fails (Pattern.analyze {} posts).shape feed) = 1 ∧
      ds.countP (Diagnostic.refusesAt (Pattern.analyze {} posts).path) = 1 ∧
      es.length + found.countP (({} : Renderer).fails (Pattern.analyze {} posts).shape feed) +
        ds.countP (Diagnostic.refusesAt (Pattern.analyze {} posts).path) = found.length := by
  have hwalk : Pattern.analyze {} posts ∈ (Pattern.analyze {} posts).walk := List.mem_cons_self ..
  have hfound : ({} : Renderer).config.marker.referencing "author" (.text "ann") feed = found := rfl
  have hcounts : (({} : Renderer).renderAt (.ofRoot writer feed "")
      (Pattern.analyze {} posts)).run.toOption.map (fun (es, ds) =>
        (es.length, ds.countP (Diagnostic.refusesAt (Pattern.analyze {} posts).path))) =
      some (1, 1) := by decide +kernel
  have hfails : found.countP (({} : Renderer).fails (Pattern.analyze {} posts).shape feed) = 1 := by
    decide +kernel
  obtain ⟨⟨es, ds⟩, hrun, hcounts⟩ := Option.map_eq_some_iff.mp hcounts
  obtain ⟨hlength, hrefused⟩ := Prod.mk.inj hcounts
  have h : (({} : Renderer).renderAt (.ofRoot writer feed "") (Pattern.analyze {} posts)).run =
      .ok (es, ds) := by
    revert hrun
    cases (({} : Renderer).renderAt (.ofRoot writer feed "") (Pattern.analyze {} posts)).run with
    | error f => nofun
    | ok result => exact fun hrun => congrArg Except.ok (Option.some.inj hrun)
  have hall := (repetition_conserves hwalk {} (.ofRoot writer feed "") h).1 "author" rfl found hfound
  exact ⟨hwalk, hfound, es, ds, h, hlength, hfails, hrefused, hall.2⟩

end Renderer
end Microdata
