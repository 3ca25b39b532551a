import Microdata.Binding.Render
set_option autoImplicit false

namespace Microdata

/-- The same result or fault, on the way to which the first computation reports no error, and the
second the same with all warnings as errors. -/
structure Promotes {α : Type} (x y : Reported α) : Prop where
  result : y.result = x.result
  lenient : ∀ d ∈ x.report, d.isError = false
  strict : y.report = x.report.map (Diagnostic.promote true)

namespace Reported

variable {α β : Type}

theorem promotes_ok (a : α) : Promotes (ok a) (ok a) := ⟨rfl, by simp [ok], rfl⟩

theorem promotes_lift (x : Except Fault α) : Promotes (lift x) (lift x) :=
  ⟨rfl, by simp [lift], rfl⟩

theorem promotes_one (a : α) {d : Diagnostic} (h : d.isError = false) :
    Promotes ⟨.ok a, [d.promote false]⟩ ⟨.ok a, [d.promote true]⟩ :=
  ⟨rfl, by simpa [Diagnostic.promote] using h, rfl⟩

end Reported

open Reported

theorem Promotes.bind {α β : Type} {x y : Reported α} {f g : α → Reported β} (hxy : Promotes x y)
    (hfg : ∀ a, Promotes (f a) (g a)) : Promotes (x >>= f) (y >>= g) := by
  obtain ⟨result, ds⟩ := x
  obtain ⟨result', ds'⟩ := y
  obtain ⟨hresult, hlenient, hstrict⟩ := hxy
  dsimp only at hresult hlenient hstrict
  subst hresult hstrict
  cases result' with
  | error e => exact ⟨rfl, hlenient, rfl⟩
  | ok a =>
    obtain ⟨hresult, hmore, hstrict⟩ := hfg a
    refine ⟨hresult, List.forall_mem_append.mpr ⟨hlenient, hmore⟩, ?_⟩
    rw [bind_of_ok, bind_of_ok, hstrict, ← List.map_append]

theorem Reported.promotes_filterMap {α β : Type} {f g : α → Reported (Option β)} (l : List α)
    (h : ∀ a, Promotes (f a) (g a)) : Promotes (filterMap f l) (filterMap g l) := by
  induction l with
  | nil => exact promotes_ok []
  | cons a l ih => exact (h a).bind fun b => ih.bind fun bs => promotes_ok _

theorem promotes_evaluate (m : Marker) (source : String) (record : Value) (batch : List Value)
    (path : String) :
    Promotes (ofRun (evaluate m source record batch path))
      (ofRun (evaluate m source record batch path true)) := by
  unfold evaluate
  dsimp only
  split
  · exact promotes_one _ (d := .malformed _ _ _) rfl
  · split
    · split
      · exact promotes_one _ (d := .dangling _ _ _ _) rfl
      · exact promotes_ok _
    · split
      · exact promotes_ok _
      · exact promotes_one _ (d := .malformed _ _ _) rfl
      · exact promotes_lift _

namespace Renderer

variable (r : Renderer)

def withStrict (b : Bool) : Renderer := { r with config := { r.config with strict := b } }

theorem promotes_report {d : Diagnostic} (h : d.isError = false) :
    Promotes ((r.withStrict false).report d) ((r.withStrict true).report d) :=
  promotes_one () h

variable (s : Shape) (ctx : Context)

theorem promotes_enter (record : Value) (linked : Bool) :
    Promotes ((r.withStrict false).enter s ctx record linked)
      ((r.withStrict true).enter s ctx record linked) := by
  refine (promotes_lift _).bind fun _ => ?_
  unfold allow
  split
  · exact (r.promotes_report (d := .cyclic _ _) rfl).bind fun _ => promotes_ok none
  · have hlimit (b : Bool) : (r.withStrict b).config.maxDepth = r.config.maxDepth := rfl
    simp only [hlimit]
    split
    · exact (r.promotes_report (d := .tooDeep _ _) rfl).bind fun _ => promotes_ok none
    · exact promotes_ok _

theorem promotes_judge (record : Value) (batch : List Value) :
    Promotes ((r.withStrict false).judge s record batch)
      ((r.withStrict true).judge s record batch) := by
  unfold judge
  split
  · exact promotes_evaluate r.config.marker _ _ _ _
  · exact promotes_ok _

theorem promotes_markIdentity (record : Value) (e : Element) :
    Promotes ((r.withStrict false).markIdentity s ctx record e)
      ((r.withStrict true).markIdentity s ctx record e) := by
  unfold markIdentity
  split
  · exact (promotes_lift _).bind fun _ => (promotes_lift _).bind fun _ => promotes_ok _
  · exact promotes_ok e

theorem promotes_writePlain (e : Element) (v : Value) :
    Promotes ((r.withStrict false).writePlain e v) ((r.withStrict true).writePlain e v) := by
  unfold writePlain
  split
  · exact promotes_ok e
  · exact promotes_ok e
  · exact promotes_lift (r.setters.write e _)

section

variable (isLeaf : Bool) {below below' : Below}
  (hb : ∀ inner e, Promotes (below inner e) (below' inner e))
include hb

theorem promotes_renderMatch (record : Value) :
    Promotes ((r.withStrict false).renderMatch s isLeaf below ctx record)
      ((r.withStrict true).renderMatch s isLeaf below' ctx record) := by
  refine (r.promotes_judge s record ctx.batch).bind fun verdict => ?_
  split
  · refine (r.promotes_enter s ctx _ true).bind fun entered => ?_
    split
    · exact promotes_ok none
    · refine (promotes_lift _).bind fun started => (hb _ started).bind fun filled => ?_
      have hmark (written : Element) :=
        (r.promotes_markIdentity s ctx ((verdict.resolved.map Value.record).getD record)
          written).bind fun e => promotes_ok (some e)
      dsimp only
      split
      · exact (r.promotes_writePlain filled _).bind hmark
      · exact (promotes_ok filled).bind hmark
  · exact promotes_ok none

theorem promotes_renderItem (item : Value) :
    Promotes ((r.withStrict false).renderItem s isLeaf below ctx item)
      ((r.withStrict true).renderItem s isLeaf below' ctx item) := by
  have hmark (written : Element) :=
    (r.promotes_markIdentity s ctx item written).bind fun e => promotes_ok (some e)
  unfold renderItem
  split
  · refine (r.promotes_enter s ctx item false).bind fun entered => ?_
    split
    · exact promotes_ok none
    · exact (promotes_lift _).bind fun started => (hb _ started).bind hmark
  · refine (promotes_lift _).bind fun started => ?_
    dsimp only
    split
    · exact (promotes_ok _).bind hmark
    · exact (promotes_lift (r.setters.write _ _)).bind hmark

theorem promotes_renderList (property : String) :
    Promotes ((r.withStrict false).renderList s isLeaf below ctx property)
      ((r.withStrict true).renderList s isLeaf below' ctx property) := by
  have hitem := r.promotes_renderItem s ctx isLeaf hb
  unfold renderList
  split
  · exact (promotes_lift _).bind fun e => promotes_ok _
  · exact promotes_filterMap _ hitem
  · exact promotes_filterMap _ hitem
  · exact (r.promotes_report (d := .notList _ _ _ _) rfl).bind fun _ => promotes_ok []

theorem promotes_renderNested (property : String) (v : Value) (linked : Bool) (nested : Value)
    (e : Element) :
    Promotes ((r.withStrict false).renderNested s below ctx property v linked nested e)
      ((r.withStrict true).renderNested s below' ctx property v linked nested e) := by
  unfold renderNested
  split
  · exact (r.promotes_report (d := .dangling _ _ _ _) rfl).bind fun _ => promotes_ok _
  · refine (r.promotes_enter s ctx _ _).bind fun entered => ?_
    split
    · exact promotes_ok _
    · exact (hb _ e).bind fun filled => r.promotes_markIdentity s ctx _ filled
  · exact (r.promotes_report (d := .notRecord _ _ _ _) rfl).bind fun _ => promotes_ok _

theorem promotes_renderScope (property : String) (e : Element) :
    Promotes ((r.withStrict false).renderScope s below ctx property e)
      ((r.withStrict true).renderScope s below' ctx property e) := by
  unfold renderScope
  split
  · exact promotes_ok _
  · have hmarker (b : Bool) : (r.withStrict b).config.marker = r.config.marker := rfl
    simp only [hmarker]
    split
    · exact r.promotes_renderNested s ctx hb property _ true _ e
    · exact r.promotes_renderNested s ctx hb property _ false _ e

theorem promotes_renderSingle :
    Promotes ((r.withStrict false).renderSingle s below ctx)
      ((r.withStrict true).renderSingle s below' ctx) := by
  refine (promotes_lift _).bind fun e => ?_
  split
  · exact (hb ctx e).bind fun filled => r.promotes_markIdentity s ctx _ filled
  · split
    · exact r.promotes_renderScope s ctx hb _ e
    · exact r.promotes_writePlain _ _

theorem promotes_renderBound :
    Promotes ((r.withStrict false).renderBound s isLeaf below ctx)
      ((r.withStrict true).renderBound s isLeaf below' ctx) := by
  unfold renderBound
  split
  · exact r.promotes_renderList s ctx isLeaf hb _
  · exact (r.promotes_renderSingle s ctx hb).bind fun e => promotes_ok _

theorem promotes_renderShape :
    Promotes ((r.withStrict false).renderShape s isLeaf below ctx)
      ((r.withStrict true).renderShape s isLeaf below' ctx) := by
  unfold renderShape
  split
  · refine (promotes_lift _).bind fun _ => promotes_filterMap _ fun record => ?_
    exact r.promotes_renderMatch s ctx isLeaf hb record
  · refine (r.promotes_judge s ctx.current ctx.batch).bind fun verdict => ?_
    split
    · split
      · exact r.promotes_renderBound s ctx isLeaf hb
      · refine (r.promotes_enter s ctx _ true).bind fun entered => ?_
        split
        · exact promotes_ok []
        · exact r.promotes_renderBound s _ isLeaf hb
    · exact promotes_ok []

end

mutual
theorem promotes_renderAt (p : Pattern) (ctx : Context) :
    Promotes (renderAt (r.withStrict false) ctx p) (renderAt (r.withStrict true) ctx p) := by
  match p with
  | .mk s children =>
    rw [renderAt, renderAt]
    exact r.promotes_renderShape s ctx _ fun inner e => promotes_renderBelow children inner e

theorem promotes_renderBelow (children : List (Pattern × String)) (ctx : Context) (e : Element) :
    Promotes (renderBelow (r.withStrict false) ctx e children)
      (renderBelow (r.withStrict true) ctx e children) := by
  match children with
  | [] =>
    rw [renderBelow, renderBelow]
    exact promotes_ok e
  | (p, tail) :: rest =>
    rw [renderBelow, renderBelow]
    refine (promotes_renderAt p ctx).bind fun es => ?_
    exact promotes_renderBelow rest ctx _
end

theorem promotes_render (p : Pattern) (record : Value) (ctx : Context) :
    Promotes ((r.withStrict false).render p record ctx) ((r.withStrict true).render p record ctx) :=
  r.promotes_renderAt p { ctx with current := record }

end Renderer
end Microdata
