import Microdata.Diagnostic
import Microdata.Fault
set_option autoImplicit false

/-!
Results with a report: a fault or a result, and the diagnostics of the way to it, in order. Main
statements: a result with nothing to report can be handed on as it is (`ok_bind`), and so can all
results for a list (`filterMap_eq_ok`); what two steps give together comes apart into what each of
them gives (`run_bind_eq_ok`).
-/

namespace Microdata

structure Reported (α : Type) where
  result : Except Fault α
  report : List Diagnostic

namespace Reported

variable {α β γ : Type}

def run (x : Reported α) : Except Fault (α × List Diagnostic) := x.result.map (·, x.report)

def ok (a : α) : Reported α := ⟨.ok a, []⟩

/-- The first result handed on; the diagnostics of both stand one behind the other. -/
def andThen (x : Reported α) (f : α → Reported β) : Reported β :=
  match x.result with
  | .error e => ⟨.error e, x.report⟩
  | .ok a => ⟨(f a).result, x.report ++ (f a).report⟩

instance : Monad Reported where
  pure := ok
  bind := andThen

def note (d : Diagnostic) : Reported Unit := ⟨.ok (), [d]⟩

def lift (x : Except Fault α) : Reported α := ⟨x, []⟩

/-- The computation that gives a result with its diagnostics, and reports nothing before a fault. -/
def ofRun : Except Fault (α × List Diagnostic) → Reported α
  | .ok (a, ds) => ⟨.ok a, ds⟩
  | .error e => ⟨.error e, []⟩

/-- The results for the items of a list, one after the other, without those left out. -/
def filterMap (f : α → Reported (Option β)) : List α → Reported (List β)
  | [] => ok []
  | a :: rest => do
    let b ← f a
    let bs ← filterMap f rest
    ok (b.toList ++ bs)

@[simp] theorem run_ok (a : α) : (ok a).run = .ok (a, []) := rfl

theorem run_eq_ok {x : Reported α} {a : α} {ds : List Diagnostic} :
    x.run = .ok (a, ds) ↔ x = ⟨.ok a, ds⟩ := by
  obtain ⟨result, report⟩ := x
  cases result <;> simp [run, Except.map]

theorem run_eq_error {x : Reported α} {e : Fault} : x.run = .error e ↔ x.result = .error e := by
  obtain ⟨result, report⟩ := x
  cases result <;> simp [run, Except.map]

instance (x : Reported α) (e : Fault) : Decidable (x.run = .error e) :=
  match x with
  | ⟨.ok _, _⟩ => isFalse nofun
  | ⟨.error f, _⟩ => decidable_of_iff (f = e) (by simp [run_eq_error])

@[simp] theorem run_ofRun (x : Except Fault (α × List Diagnostic)) : (ofRun x).run = x := by
  cases x <;> rfl

theorem run_ok_eq_ok {a b : α} {ds : List Diagnostic} :
    (ok a).run = .ok (b, ds) ↔ a = b ∧ ds = [] := by
  simp [eq_comm]

theorem run_lift_eq_ok {x : Except Fault α} {a : α} {ds : List Diagnostic} :
    (lift x).run = .ok (a, ds) ↔ x = .ok a ∧ ds = [] := by
  cases x <;> simp [lift, run, Except.map, eq_comm]

@[simp] theorem lift_ok (a : α) : lift (.ok a) = ok a := rfl

@[simp] theorem ok_bind (a : α) (f : α → Reported β) : (ok a >>= f) = f a := rfl

theorem bind_of_ok (a : α) (ds : List Diagnostic) (f : α → Reported β) :
    (⟨.ok a, ds⟩ >>= f : Reported β) = ⟨(f a).result, ds ++ (f a).report⟩ := rfl

theorem bind_of_error (e : Fault) (ds : List Diagnostic) (f : α → Reported β) :
    (⟨.error e, ds⟩ >>= f : Reported β) = ⟨.error e, ds⟩ := rfl

@[simp] theorem bind_ok (x : Reported α) : (x >>= ok) = x := by
  obtain ⟨result, report⟩ := x
  cases result with
  | error e => rfl
  | ok a => simp [bind_of_ok, ok]

theorem bind_assoc (x : Reported α) (f : α → Reported β) (g : β → Reported γ) :
    (x >>= f >>= g) = x >>= fun a => f a >>= g := by
  obtain ⟨result, report⟩ := x
  cases result with
  | error e => rfl
  | ok a =>
    rw [bind_of_ok, bind_of_ok]
    generalize f a = y
    obtain ⟨result, more⟩ := y
    cases result with
    | error e => rfl
    | ok b => simp only [bind_of_ok, List.append_assoc]

theorem run_bind_eq_ok {x : Reported α} {f : α → Reported β} {b : β} {ds : List Diagnostic} :
    (x >>= f).run = .ok (b, ds) ↔ ∃ a first more,
      x.run = .ok (a, first) ∧ (f a).run = .ok (b, more) ∧ ds = first ++ more := by
  obtain ⟨result, report⟩ := x
  cases result with
  | error e => simp [bind_of_error, run, Except.map]
  | ok a =>
    rw [bind_of_ok]
    cases hf : (f a).result with
    | error e => simp [run, Except.map, hf]
    | ok c =>
      simp only [run, Except.map, Except.ok.injEq, Prod.mk.injEq]
      grind

theorem run_bind_eq_error {x : Reported α} {f : α → Reported β} {e : Fault} :
    (x >>= f).run = .error e ↔ x.run = .error e ∨
      ∃ a ds, x.run = .ok (a, ds) ∧ (f a).run = .error e := by
  obtain ⟨result, report⟩ := x
  cases result with
  | error f => simp [bind_of_error, run, Except.map]
  | ok a => simp [bind_of_ok, run_eq_error, run_eq_ok]

theorem run_lift_bind_eq_ok {x : Except Fault α} {f : α → Reported β} {b : β}
    {ds : List Diagnostic} :
    (lift x >>= f).run = .ok (b, ds) ↔ ∃ a, x = .ok a ∧ (f a).run = .ok (b, ds) := by
  cases x with
  | error e => simp [lift, bind_of_error, run, Except.map]
  | ok a => simp

theorem exists_of_filterMap {f : α → Reported (Option β)} {l : List α} {bs : List β}
    {ds : List Diagnostic} (h : (filterMap f l).run = .ok (bs, ds)) {b : β} (hb : b ∈ bs) :
    ∃ a ∈ l, ∃ more, (f a).run = .ok (some b, more) := by
  induction l generalizing bs ds with
  | nil =>
    obtain ⟨rfl, -⟩ := run_ok_eq_ok.mp h
    cases hb
  | cons a l ih =>
    simp only [filterMap, run_bind_eq_ok] at h
    obtain ⟨x, first, more, ha, ⟨xs, second, last, hl, hbs, -⟩, -⟩ := h
    obtain ⟨rfl, -⟩ := run_ok_eq_ok.mp hbs
    rcases List.mem_append.mp hb with hb | hb
    · exact ⟨a, by simp, first, by simp_all⟩
    · obtain ⟨a', ha', more', h'⟩ := ih hl hb
      exact ⟨a', by simp [ha'], more', h'⟩

theorem filterMap_eq_ok {f : α → Reported (Option β)} {g : α → β} {l : List α}
    (h : ∀ a ∈ l, f a = ok (some (g a))) : filterMap f l = ok (l.map g) := by
  induction l with
  | nil => rfl
  | cons a l ih =>
    have ha := h a (by simp)
    have hl := ih fun b hb => h b (by simp [hb])
    simp [filterMap, ha, hl]

end Reported
end Microdata
