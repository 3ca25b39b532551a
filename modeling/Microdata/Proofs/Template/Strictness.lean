import Microdata.Proofs.Binding.Strictness
import Microdata.Template.Render
set_option autoImplicit false

namespace Microdata

/-- A result that reports no error, and the same result with all warnings as errors; or one failure
on both sides. -/
inductive Hardens {ε α : Type} :
    Except ε (α × List Diagnostic) → Except ε (α × List Diagnostic) → Prop
  | failure (e : ε) : Hardens (.error e) (.error e)
  | result (a : α) (ds : List Diagnostic) (h : ∀ d ∈ ds, d.isError = false) :
    Hardens (.ok (a, ds)) (.ok (a, ds.map (Diagnostic.promote true)))

theorem Promotes.hardens {α : Type} {x y : Reported α} (h : Promotes x y) :
    Hardens x.run y.run := by
  obtain ⟨result, ds⟩ := x
  obtain ⟨result', ds'⟩ := y
  obtain ⟨hresult, hlenient, hstrict⟩ := h
  dsimp only at hresult hlenient hstrict
  subst hresult hstrict
  cases result' with
  | error e => exact .failure e
  | ok a => exact .result a ds hlenient

namespace Hardens

variable {ε : Type} {α : Type} {x y : Except ε (α × List Diagnostic)}

theorem one (a : α) {d : Diagnostic} (h : d.isError = false) :
    Hardens (.ok (a, [d.promote false]) : Except ε _) (.ok (a, [d.promote true])) :=
  .result a [d.promote false] (by simpa [Diagnostic.promote] using h)

theorem mapError (h : Hardens x y) {δ : Type} (f : ε → δ) :
    Hardens (x.mapError f) (y.mapError f) := by
  cases h with
  | failure e => exact .failure (f e)
  | result a ds hd => exact .result a ds hd

theorem map (h : Hardens x y) {β : Type} (f : α → β) :
    Hardens (x.map fun r => (f r.1, r.2)) (y.map fun r => (f r.1, r.2)) := by
  cases h with
  | failure e => exact .failure e
  | result a ds hd => exact .result (f a) ds hd

theorem append_bind {β γ : Type} {z w : Except ε (β × List Diagnostic)} (h : Hardens x y)
    (hz : Hardens z w) (f : α → β → γ) :
    Hardens (x >>= fun r => z >>= fun s => .ok (f r.1 s.1, r.2 ++ s.2))
      (y >>= fun r => w >>= fun s => .ok (f r.1 s.1, r.2 ++ s.2)) := by
  cases h with
  | failure e => exact .failure e
  | result a ds hd =>
    cases hz with
    | failure e => exact .failure e
    | result b more hm =>
      have hboth := @Hardens.result ε γ (f a b) (ds ++ more) (List.forall_mem_append.mpr ⟨hd, hm⟩)
      rw [List.map_append] at hboth
      exact hboth

theorem after {β : Type} {f g : β → Except ε (α × List Diagnostic)} (z : Except ε β)
    (h : ∀ b, Hardens (f b) (g b)) : Hardens (z >>= f) (z >>= g) := by
  cases z with
  | error e => exact .failure e
  | ok b => exact h b

end Hardens

open Reported

namespace Template

variable (t : Template)

def withStrict (b : Bool) : Template := { t with config := { t.config with strict := b } }

theorem hardens_renderRecord (record : Value) (batch : List Value) (base : String) :
    Hardens ((t.withStrict false).renderRecord record batch base)
      ((t.withStrict true).renderRecord record batch base) := by
  have hroots (b : Bool) : (t.withStrict b).roots = t.roots := rfl
  have hseparator (b : Bool) : (t.withStrict b).config.separator = t.config.separator := rfl
  unfold renderRecord
  simp only [hroots, hseparator]
  cases t.roots with
  | error e => exact .failure _
  | ok roots =>
    refine .after _ fun _ => ?_
    cases Pattern.rootFor? t.config.separator record roots with
    | none => exact .one [] (d := t.unmatched record) rfl
    | some root =>
      refine .after _ fun _ => ?_
      have hr := (Renderer.mk t.config .standard).promotes_render root record
        (Context.ofRoot record batch base)
      exact hr.hardens.mapError RenderError.fault

theorem hardens_renderRecords (batch : List Value) (base : String) (records : List Value) :
    Hardens ((t.withStrict false).renderRecords batch base records)
      ((t.withStrict true).renderRecords batch base records) := by
  induction records with
  | nil => exact .result [] [] nofun
  | cons record rest ih => exact (t.hardens_renderRecord record batch base).append_bind ih (· ++ ·)

theorem hardens_render (data : Value) :
    Hardens ((t.withStrict false).render data) ((t.withStrict true).render data) := by
  have hdialect (b : Bool) : (t.withStrict b).dialect = t.dialect := rfl
  have hbase (b : Bool) : (t.withStrict b).config.base = t.config.base := rfl
  unfold render
  simp only [hdialect, hbase]
  generalize (if data.origin = "" then t.config.base else data.origin) = base
  refine .after _ fun records => ?_
  split
  · exact (t.hardens_renderRecords _ base _).map Output.batch
  · exact (t.hardens_renderRecord _ _ base).map fun es => Output.single es.head?

theorem render_strict_eq_ok {data : Value} {output : Output} {ds : List Diagnostic}
    (h : (t.withStrict false).render data = .ok (output, ds)) :
    (t.withStrict true).render data = .ok (output, ds.map (Diagnostic.promote true)) := by
  have hp := t.hardens_render data
  rw [h] at hp
  generalize (t.withStrict true).render data = y at hp ⊢
  cases hp
  rfl

end Template
end Microdata
