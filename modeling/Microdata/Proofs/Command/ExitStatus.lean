import Microdata.Command.Render
import Microdata.Proofs.Template.Strictness
set_option autoImplicit false

/-!
The exit status of a rendering. Main statement: `strict_run`, a strict run does what a lenient one
does but that warnings are errors; once its output is handed over and its findings are shown, its
exit status tells whether the lenient run has a warning. An exception of the rendering, or on the
way to a file or to the console, leaves the command in strict mode as in any other
(`strict_unsaved`).
-/

namespace Microdata

/-- The exception of the first step that cannot be carried out on a directory. -/
def Directory.takes (d : Directory) : List Effect → Except Exception Unit
  | [] => .ok ()
  | .display .. :: rest => d.takes rest
  | .save path text :: rest =>
    match d.write path text with
    | .ok d => d.takes rest
    | .error problem => .error (.file problem path)

theorem Outcome.status_afterAll (o : Outcome) (steps : List Effect) :
    (o.afterAll steps).status = (o.directory.takes steps >>= fun _ => o.status) := by
  induction steps generalizing o with
  | nil => rfl
  | cons step rest ih =>
    cases step with
    | display stream lines =>
      cases stream with
      | output => exact ih _
      | error => exact ih _
    | save path text =>
      cases hw : o.directory.write path text with
      | ok d =>
        have hrest := ih { o with directory := d }
        simpa only [afterAll, after, Directory.takes, hw] using hrest
      | error problem =>
        simp only [afterAll, after, Directory.takes, hw]
        rfl

namespace Directory

variable {α β : Type} (d : Directory)

theorem status_play (r : Run α) :
    (d.play r).status = (d.takes r.steps >>= fun _ => r.status) :=
  Outcome.status_afterAll _ r.steps

theorem takes_append (steps : List Effect) {shown : List Effect}
    (h : ∀ e ∈ shown, ∃ s l, e = .display s l) :
    d.takes (steps ++ shown) = d.takes steps := by
  induction steps generalizing d with
  | nil =>
    induction shown with
    | nil => rfl
    | cons e rest ih =>
      obtain ⟨s, l, rfl⟩ := h e (by simp)
      exact ih fun e he => h e (by simp [he])
  | cons step rest ih =>
    cases step with
    | display stream lines => exact ih d
    | save path text =>
      simp only [List.cons_append, takes]
      cases d.write path text with
      | ok d => exact ih d
      | error problem => rfl

end Directory

namespace Run

variable {α β : Type}

theorem andThen_of_result {r : Run α} {a : α} (h : r.result = .ok a) (f : α → Run β) :
    r >>= f = ⟨r.steps ++ (f a).steps, (f a).result⟩ := by
  change r.andThen f = _
  rw [andThen, h]

theorem andThen_of_break {r : Run α} {b : Break} (h : r.result = .error b) (f : α → Run β) :
    r >>= f = ⟨r.steps, .error b⟩ := by
  change r.andThen f = _
  rw [andThen, h]

/-- A run of which nothing is seen before it gives its result. -/
def Silent (r : Run α) : Prop := ∀ a, r.result = .ok a → r.steps = []

theorem silent_done (a : α) : Silent (done a) := fun _ _ => rfl

theorem silent_raise (e : Exception) : Silent (raise e : Run α) := nofun

theorem silent_orRaise {ε : Type} (raising : ε → Exception) (x : Except ε α) :
    Silent (orRaise raising x) := by
  cases x with
  | ok a => exact silent_done a
  | error e => exact silent_raise _

theorem silent_refuse (styled : String) : Silent (refuse styled : Run α) := by
  intro a h
  cases hs : (say .error styled).result with
  | ok u =>
    rw [refuse, andThen_of_result hs] at h
    cases h
  | error b =>
    rw [refuse, andThen_of_break hs] at h
    cases h

theorem Silent.bind {r : Run α} {f : α → Run β} (hr : Silent r) (hf : ∀ a, Silent (f a)) :
    Silent (r >>= f) := by
  intro b hb
  cases hres : r.result with
  | error e =>
    rw [andThen_of_break hres] at hb
    cases hb
  | ok a =>
    rw [andThen_of_result hres] at hb ⊢
    rw [hr a hres, List.nil_append]
    exact hf a b hb

def NeverExits (r : Run α) : Prop := ∀ code, r.result ≠ .error (.exit code)

theorem NeverExits.bind {r : Run α} {f : α → Run β} (hr : NeverExits r)
    (hf : ∀ a, NeverExits (f a)) : NeverExits (r >>= f) := by
  intro code h
  cases hres : r.result with
  | error b =>
    rw [andThen_of_break hres] at h
    cases h
    exact hr code hres
  | ok a =>
    rw [andThen_of_result hres] at h
    exact hf a code h

theorem neverExits_orRaise {ε : Type} (raising : ε → Exception) (x : Except ε α) :
    NeverExits (orRaise raising x) := by
  cases x <;> exact nofun

theorem neverExits_say (stream : Stream) (styled : String) : NeverExits (say stream styled) :=
  (neverExits_orRaise _ _).bind fun _ => nofun

theorem silent_data (request : RenderRequest) (text : String) : Silent (data request text) := by
  unfold data
  dsimp only
  split
  · split
    · exact silent_done _
    · exact silent_refuse _
    · exact silent_raise _
  · split
    · exact silent_done _
    · exact silent_refuse _
    · exact silent_raise _
  · exact (silent_orRaise _ _).bind fun page => silent_done _
  · exact silent_done _

end Run

open Run

namespace Surroundings

variable (w : Surroundings)

theorem silent_readText (path : String) : Silent (w.readText path) := by
  unfold readText
  split
  · exact silent_done _
  · dsimp only
    split
    · exact silent_done _
    · exact silent_raise _
    · exact silent_refuse _
    · exact silent_refuse _

theorem silent_readConfig (path : Option String) : Silent (w.readConfig path) := by
  unfold readConfig
  split
  · exact silent_done _
  · dsimp only
    split
    · exact silent_raise _
    · exact silent_refuse _
    · split
      · exact silent_done _
      · exact silent_raise _
      · split <;> exact silent_refuse _

theorem silent_readTemplate (path : String) (config : Config) (id selector base : Option String) :
    Silent (w.readTemplate path config id selector base) := by
  refine (w.silent_readText path).bind fun read => (silent_orRaise _ _).bind fun page => ?_
  dsimp only
  split
  · exact silent_done _
  · exact silent_raise _
  · exact silent_refuse _

end Surroundings

namespace RenderRequest

variable (request : RenderRequest) (d : Directory)

theorem silent_load (w : Surroundings) : Silent (request.load w) := by
  refine (w.silent_readConfig _).bind fun config => ?_
  refine (w.silent_readTemplate _ _ _ _ _).bind fun template => ?_
  refine (Surroundings.silent_readText _ _).bind fun read => ?_
  exact (silent_data request _).bind fun data => silent_done _

theorem run_eq_deliver {w : Surroundings} {t : Template} {data : Value}
    (h : (request.load w).result = .ok (t, data)) : request.run w = request.deliver t data := by
  have hs := request.silent_load w _ h
  rw [run, andThen_of_result h, hs]
  rfl

/-- The exception with which the output cannot be shown or saved or, behind it, what was found on
the way to it cannot be shown. -/
def delivery (output : Output) (ds : List Diagnostic) : Except Exception Unit := do
  let _ ← (d.play (request.handOver output)).status
  if ds = [] then .ok () else (Styled.shown request.title).mapError .style >>= fun _ => .ok ()

theorem neverExits_handOver (output : Output) : NeverExits (request.handOver output) := by
  refine (neverExits_orRaise _ _).bind fun texts => ?_
  dsimp only
  split
  · exact nofun
  · exact NeverExits.bind nofun fun _ => neverExits_say _ _

theorem steps_report (title : String) (ds : List Diagnostic) :
    ∀ e ∈ (Run.report title ds).steps, ∃ s l, e = .display s l := by
  unfold Run.report
  split
  · simp [done]
  · cases Styled.shown title with
    | error e => exact nofun
    | ok shown =>
      change ∀ e ∈ (Run.andThen _ _).steps, _
      simp only [orRaise, done, andThen]
      change ∀ e ∈ [] ++ (Run.andThen _ _).steps, _
      simp only [andThen, display]
      split <;> simp [exit]

theorem status_report (title : String) (ds : List Diagnostic) :
    (Run.report title ds).status =
      if ds = [] then .ok 0
      else (Styled.shown title).mapError Exception.style >>= fun _ =>
        .ok (if ds.any Diagnostic.isError then 1 else 0) := by
  unfold Run.report
  cases ds with
  | nil => rfl
  | cons x ds =>
    simp only [List.isEmpty_cons, Bool.false_eq_true, if_false, reduceCtorEq]
    cases Styled.shown title with
    | error e => rfl
    | ok shown =>
      cases (x :: ds).any Diagnostic.isError with
      | false => rfl
      | true => rfl

theorem status_play_deliver {t : Template} {data : Value} {output : Output} {ds : List Diagnostic}
    (h : t.render data = .ok (output, ds)) :
    (d.play (request.deliver t data)).status = (request.delivery d output ds >>= fun _ =>
      .ok (if ds.any Diagnostic.isError then 1 else 0)) := by
  have hdeliver : request.deliver t data =
      (request.handOver output >>= fun _ => Run.report request.title ds) := by
    rw [deliver, h]
    rfl
  have hhand := d.status_play (request.handOver output)
  rw [hdeliver, delivery]
  cases hres : (request.handOver output).result with
  | error b =>
    cases b with
    | exit code => exact absurd hres (request.neverExits_handOver output code)
    | raised e =>
      have hstatus : (request.handOver output).status = .error e := by rw [status, hres]
      rw [andThen_of_break hres, d.status_play, hhand, hstatus]
      cases d.takes (request.handOver output).steps <;> rfl
  | ok u =>
    have hstatus : (request.handOver output).status = .ok 0 := by rw [status, hres]
    rw [andThen_of_result hres, d.status_play, hhand, hstatus,
      d.takes_append _ (steps_report request.title ds)]
    change (_ >>= fun _ => (Run.report request.title ds).status) = _
    rw [status_report]
    cases d.takes (request.handOver output).steps with
    | error e => rfl
    | ok u =>
      cases ds with
      | nil => rfl
      | cons x ds =>
        rw [if_neg (by simp)]
        cases Styled.shown request.title with
        | error e => rfl
        | ok shown => rfl

theorem status_play_deliver_error {t : Template} {data : Value} {e : RenderError}
    (h : t.render data = .error e) :
    (d.play (request.deliver t data)).status = .error e.exception := by
  rw [deliver, h]
  rfl

end RenderRequest

def Diagnostic.hardened (d : Diagnostic) : Diagnostic :=
  if d.severity = .warning then { d with severity := .error } else d

theorem Diagnostic.promote_true (d : Diagnostic) : d.promote true = d.hardened := by
  simp [promote, hardened]

theorem Diagnostic.isError_hardened {d : Diagnostic} (h : d.isError = false) :
    d.hardened.isError = true ↔ d.severity = .warning := by
  simp only [isError, decide_eq_false_iff_not] at h
  by_cases hw : d.severity = .warning
  · simp [hardened, isError, hw]
  · simp [hardened, isError, hw, h]

theorem Diagnostic.exists_isError_hardened {ds : List Diagnostic}
    (h : ∀ x ∈ ds, x.isError = false) :
    (∃ x ∈ ds.map hardened, x.isError = true) ↔ ∃ x ∈ ds, x.severity = .warning := by
  constructor
  · rintro ⟨y, hy, he⟩
    obtain ⟨x, hx, rfl⟩ := List.mem_map.mp hy
    exact ⟨x, hx, (isError_hardened (h x hx)).mp he⟩
  · rintro ⟨x, hx, hw⟩
    exact ⟨_, List.mem_map_of_mem hx, (isError_hardened (h x hx)).mpr hw⟩

open RenderRequest

/-- Strictness makes errors of warnings and changes nothing else. If all that was loaded can be
rendered and handed over, the status of a strict run is one exactly for a warning of the lenient
one. -/
theorem Template.strict_run (t : Template) (data : Value) :
    (∃ e, (t.withStrict false).render data = .error e ∧ (t.withStrict true).render data = .error e ∧
        ∀ (request : RenderRequest) (w : Surroundings) (d : Directory),
          (request.load w).result = .ok (t.withStrict true, data) →
            (d.play (request.run w)).status = .error e.exception) ∨
      ∃ output ds, (t.withStrict false).render data = .ok (output, ds) ∧
        (t.withStrict true).render data = .ok (output, ds.map Diagnostic.hardened) ∧
        (∀ x ∈ ds, x.isError = false) ∧
        ((∃ x ∈ ds.map Diagnostic.hardened, x.isError = true) ↔
          ∃ x ∈ ds, x.severity = .warning) ∧
        ∀ (request : RenderRequest) (w : Surroundings) (d : Directory),
          (request.load w).result = .ok (t.withStrict true, data) →
            (∃ e, request.delivery d output ds = .error e ∧
              (d.play (request.run w)).status = .error e) ∨
            request.delivery d output ds = .ok () ∧
              ((d.play (request.run w)).status = .ok 1 ↔ ∃ x ∈ ds, x.severity = .warning) ∧
              ((d.play (request.run w)).status = .ok 0 ↔ ∀ x ∈ ds, x.severity ≠ .warning) := by
  have hmap : Diagnostic.promote true = Diagnostic.hardened := funext Diagnostic.promote_true
  have hp := t.hardens_render data
  generalize hx : (t.withStrict false).render data = x,
    hy : (t.withStrict true).render data = y at hp
  cases hp with
  | failure e =>
    refine .inl ⟨e, rfl, rfl, fun request w d hload => ?_⟩
    rw [request.run_eq_deliver hload]
    exact request.status_play_deliver_error d hy
  | result output ds h =>
    rw [hmap] at hy ⊢
    have hexists := Diagnostic.exists_isError_hardened h
    refine .inr ⟨output, ds, rfl, rfl, h, hexists, fun request w d hload => ?_⟩
    have hdelivery : request.delivery d output (ds.map Diagnostic.hardened) =
        request.delivery d output ds := by
      simp only [delivery, List.map_eq_nil_iff]
    have hstatus := request.status_play_deliver d hy
    rw [hdelivery, ← request.run_eq_deliver hload] at hstatus
    cases hd : request.delivery d output ds with
    | error e =>
      rw [hd] at hstatus
      exact .inl ⟨e, rfl, hstatus⟩
    | ok u =>
      rw [hd] at hstatus
      change _ = Except.ok _ at hstatus
      rw [← List.any_eq_true] at hexists
      refine .inr ⟨rfl, ?_, ?_⟩
      · rw [hstatus, ← hexists]
        cases (ds.map Diagnostic.hardened).any Diagnostic.isError <;> simp
      · have hnone : (∀ x ∈ ds, x.severity ≠ .warning) ↔ ¬ ∃ x ∈ ds, x.severity = .warning := by
          simp
        rw [hstatus, hnone, ← hexists]
        cases (ds.map Diagnostic.hardened).any Diagnostic.isError <;> simp

theorem Template.withStrict_config (t : Template) : t.withStrict t.config.strict = t := rfl

namespace RenderRequest

def strictly (output : Option String) : RenderRequest where
  template := "t.html"
  data := "d.json"
  id := none
  selector := none
  base := none
  origin := ""
  config := none
  strict := true
  format := .detected
  output := output

def files (page data : String) : Directory := ⟨[(["t.html"], page), (["d.json"], data)]⟩

/-- Whether a request with these files is loaded in strict mode, and a test of what is rendered of
it without. -/
def loads (request : RenderRequest) (d : Directory)
    (test : Template → Value → Output → List Diagnostic → Bool) : Bool :=
  match (request.load ⟨d.read, ""⟩).result with
  | .error _ => false
  | .ok loaded =>
    match (loaded.1.withStrict false).render loaded.2 with
    | .error _ => false
    | .ok result => loaded.1.config.strict && test loaded.1 loaded.2 result.1 result.2

theorem exists_of_loads {request : RenderRequest} {d : Directory}
    {test : Template → Value → Output → List Diagnostic → Bool}
    (h : request.loads d test = true) :
    ∃ (t : Template) (data : Value) (output : Output) (ds : List Diagnostic),
      (request.load ⟨d.read, ""⟩).result = .ok (t.withStrict true, data) ∧
      (t.withStrict false).render data = .ok (output, ds) ∧ test t data output ds = true := by
  unfold loads at h
  split at h
  · cases h
  · rename_i loaded hload
    split at h
    · cases h
    · rename_i result hrender
      obtain ⟨hstrict, htest⟩ := Bool.and_eq_true_iff.mp h
      have ht : loaded.1.withStrict true = loaded.1 := hstrict ▸ loaded.1.withStrict_config
      exact ⟨loaded.1, loaded.2, result.1, result.2, by rw [hload, ht], hrender, htest⟩

def fails (e : Exception) : Except Exception Nat → Bool
  | .ok _ => false
  | .error e' => e' = e

theorem eq_error_of_fails {e : Exception} {status : Except Exception Nat}
    (h : fails e status = true) : status = .error e := by
  cases status with
  | ok code => cases h
  | error e' => exact congrArg Except.error (of_decide_eq_true h)

end RenderRequest

theorem Template.strict_run_warning :
    let d := RenderRequest.files "<template><p itemprop=a itemscope></p></template>"
      "\x7b\"a\": \"x\"\x7d"
    let request := RenderRequest.strictly none
    ∃ (t : Template) (data : Value) (output : Output) (ds : List Diagnostic),
      (request.load ⟨d.read, ""⟩).result = .ok (t.withStrict true, data) ∧
      (t.withStrict false).render data = .ok (output, ds) ∧
      request.delivery d output ds = .ok () ∧
      (d.play (request.run ⟨d.read, ""⟩)).status = .ok 1 := by
  intro d request
  have htest : request.loads d (fun _ _ output ds =>
      (request.delivery d output ds).isOk && ds.any (·.severity = .warning)) = true := by
    decide +kernel
  obtain ⟨t, data, output, ds, hload, hrender, htest⟩ := exists_of_loads htest
  obtain ⟨hok, hwarning⟩ := Bool.and_eq_true_iff.mp htest
  rcases t.strict_run data with ⟨e, he, -⟩ | ⟨output', ds', hlenient, -, -, -, hrun⟩
  · cases hrender.symm.trans he
  · cases hrender.symm.trans hlenient
    rcases hrun request _ d hload with ⟨e, he, -⟩ | ⟨hd, hone, -⟩
    · rw [he] at hok
      cases hok
    · have hexists : ∃ x ∈ ds, x.severity = .warning := by simpa using hwarning
      exact ⟨t, data, output, ds, hload, hrender, hd, hone.mpr hexists⟩

/-- A strict run for whose output there is no place raises an exception, which the program's own
exit code shows as a one: without any warning, and no less if there is one. -/
theorem RenderRequest.strict_unsaved :
    let request := strictly (some "no/out.html")
    let missing := Exception.file .missing (FilePath.ofText "no/out.html")
    (let d := files "<template><p>x</p></template>" "\x7b\x7d"
      ∃ (t : Template) (data : Value) (output : Output),
        (request.load ⟨d.read, ""⟩).result = .ok (t.withStrict true, data) ∧
        (t.withStrict false).render data = .ok (output, []) ∧
        (d.play (request.run ⟨d.read, ""⟩)).status = .error missing ∧
        (d.play (request.run ⟨d.read, ""⟩)).code = 1) ∧
      let d := files "<template><p itemprop=a itemscope></p></template>" "\x7b\"a\": \"x\"\x7d"
      ∃ (t : Template) (data : Value) (output : Output) (ds : List Diagnostic),
        (request.load ⟨d.read, ""⟩).result = .ok (t.withStrict true, data) ∧
        (t.withStrict false).render data = .ok (output, ds) ∧ (∃ x ∈ ds, x.severity = .warning) ∧
        (d.play (request.run ⟨d.read, ""⟩)).status = .error missing := by
  intro request missing
  have hstatus (d : Directory) {t : Template} {data : Value} {output : Output}
      {ds : List Diagnostic}
      (hload : (request.load ⟨d.read, ""⟩).result = .ok (t.withStrict true, data))
      (hrender : (t.withStrict false).render data = .ok (output, ds))
      (hhand : fails missing (d.play (request.handOver output)).status = true) :
      (d.play (request.run ⟨d.read, ""⟩)).status = .error missing := by
    rw [request.run_eq_deliver hload,
      request.status_play_deliver d (t.render_strict_eq_ok hrender), delivery,
      eq_error_of_fails hhand]
    rfl
  refine ⟨?_, ?_⟩
  · intro d
    have htest : request.loads d (fun _ _ output ds =>
        ds.isEmpty && fails missing (d.play (request.handOver output)).status) = true := by
      decide +kernel
    obtain ⟨t, data, output, ds, hload, hrender, htest⟩ := exists_of_loads htest
    obtain ⟨hempty, hhand⟩ := Bool.and_eq_true_iff.mp htest
    obtain rfl := List.isEmpty_iff.mp hempty
    have herror := hstatus d hload hrender hhand
    exact ⟨t, data, output, hload, hrender, herror, by rw [Outcome.code, herror]⟩
  · intro d
    have htest : request.loads d (fun _ _ output ds => ds.any (·.severity = .warning) &&
        fails missing (d.play (request.handOver output)).status) = true := by
      decide +kernel
    obtain ⟨t, data, output, ds, hload, hrender, htest⟩ := exists_of_loads htest
    obtain ⟨hwarning, hhand⟩ := Bool.and_eq_true_iff.mp htest
    have hexists : ∃ x ∈ ds, x.severity = .warning := by simpa using hwarning
    exact ⟨t, data, output, ds, hload, hrender, hexists, hstatus d hload hrender hhand⟩

end Microdata
