import Microdata.Proofs.Binding.Links
import Microdata.Proofs.Binding.Setters
import Microdata.Proofs.Location.Fragment
import Microdata.Proofs.Value.Nesting
set_option autoImplicit false

namespace Microdata

variable {P : Int → Prop} {v : Value}

namespace Expr

variable {record : Fields} (h : ∀ e ∈ record, e.2.IsJson P)
include h

theorem property_isJson (name : String) : (property record name).IsJson P := by
  unfold property
  split
  · exact .text ""
  · exact .text ""
  · rename_i w _ hw
    exact h _ (Fields.mem_of_get? hw)

theorem identifier_isJson : (identifier record).IsJson P := by
  unfold identifier
  split
  · exact .text ""
  · rename_i w hw
    split
    · exact h _ (Fields.mem_of_get? hw)
    · exact .text ""

theorem isJson_of_eval {e : Expr} {budget : Nat} (hv : eval record budget e = .ok v) :
    v.IsJson P := by
  cases budget with
  | zero => cases hv
  | succ budget =>
    cases e with
    | text value => exact Except.ok.inj hv ▸ .text value
    | number value => exact Except.ok.inj hv ▸ .float value
    | bool value => exact Except.ok.inj hv ▸ .bool value
    | recordId => exact Except.ok.inj hv ▸ identifier_isJson h
    | name n => exact Except.ok.inj hv ▸ property_isJson h n
    | not operand =>
      obtain ⟨w, -, hw⟩ := bind_eq_ok.mp hv
      exact Except.ok.inj hw ▸ .bool _
    | binary op left right =>
      rw [eval] at hv
      obtain ⟨w, -, hw⟩ := bind_eq_ok.mp hv
      split at hw
      · split at hw
        · obtain ⟨x, -, hx⟩ := bind_eq_ok.mp hw
          exact Except.ok.inj hx ▸ .bool _
        · exact Except.ok.inj hw ▸ .bool false
      · split at hw
        · exact Except.ok.inj hw ▸ .bool true
        · obtain ⟨x, -, hx⟩ := bind_eq_ok.mp hw
          exact Except.ok.inj hx ▸ .bool _
      · obtain ⟨x, -, hx⟩ := bind_eq_ok.mp hw
        obtain ⟨b, -, hb⟩ := bind_eq_ok.mp hx
        exact Except.ok.inj hb ▸ .bool b

theorem eval_fails (e : Expr) (budget : Nat) :
    OnlyFails (Fault.Arises P) (eval record budget e) := by
  induction budget generalizing e with
  | zero =>
    rintro _ ⟨⟩
    exact .inl rfl
  | succ budget ih =>
    cases e with
    | not operand => exact (ih operand).bind fun w _ => .ok _
    | binary op left right =>
      rw [eval]
      refine (ih left).bind fun w hw => ?_
      have hright (f : Value → Value) : OnlyFails (Fault.Arises P)
          (eval record budget right >>= fun x => .ok (f x)) :=
        (ih right).bind fun x _ => .ok (f x)
      split
      · split
        · exact hright _
        · exact .ok _
      · split
        · exact .ok _
        · exact hright _
      · refine (ih right).bind fun x hx => ?_
        have hcompare := compareValues_fails op (isJson_of_eval h hw) (isJson_of_eval h hx) budget
        exact hcompare.bind fun b _ => .ok _
    | _ => exact .ok _

end Expr

theorem evaluate_fails (m : Marker) (source : String) (hv : v.IsJson P) (batch : List Value)
    (path : String) (strict : Bool) :
    OnlyFails (Fault.IsOverflow P) (evaluate m source v batch path strict) := by
  unfold evaluate
  dsimp only
  split
  · exact .ok _
  · rename_i e _
    split
    · split
      · exact .ok _
      · exact .ok _
    · have heval := Expr.eval_fails hv.mem_fields e Expr.depthLimit
      split
      · exact .ok _
      · exact .ok _
      · rename_i f hdeep hf
        rintro _ ⟨⟩
        exact (heval f hf).resolve_left hdeep

/-- A value of a kind that JSON has, nested to so many levels at most. -/
structure Value.JsonWithin (P : Int → Prop) (d : Nat) (v : Value) : Prop where
  isJson : v.IsJson P
  depth : v.depth ≤ d

/-- A fault that values like that can lead to. -/
def Fault.Due (P : Int → Prop) (d : Nat) (f : Fault) : Prop :=
  f.Arises P ∧ f.DeepOnlyIf (322 < d)

variable {d : Nat}

namespace Value.JsonWithin

theorem none (P : Int → Prop) (d : Nat) : JsonWithin P d .none := ⟨.none, Nat.zero_le d⟩

theorem mem_fields (h : v.JsonWithin P d) : ∀ e ∈ v.fields, e.2.JsonWithin P d := by
  intro e he
  refine ⟨h.isJson.mem_fields e he, ?_⟩
  cases v with
  | record fields =>
    have hpart : e.2.depth ≤ fieldDepths fields := (depth_le_fieldDepths he).2
    have hdepth := h.depth
    rw [Value.depth] at hdepth
    omega
  | _ => cases he

theorem get?_getD (h : v.JsonWithin P d) (name : String) :
    ((v.get? name).getD .none).JsonWithin P d := by
  cases hget : v.get? name with
  | none => exact none P d
  | some w => exact h.mem_fields _ (Fields.mem_of_get? hget)

theorem markup_fails (h : v.JsonWithin P d) : OnlyFails (Fault.Due P d) v.markup := by
  have hdepth := h.depth
  intro f hf
  refine ⟨Value.markupIn_fails h.isJson _ f hf, fun hdeep => ?_⟩
  have hroom : 970 < 3 * v.depth + 4 := v.markupIn_nested _ f hf hdeep
  omega

theorem shown_fails (h : v.JsonWithin P d) : OnlyFails (Fault.Due P d) v.shown := by
  have hdepth := h.depth
  intro f hf
  refine ⟨(Value.checkLiteral_fails h.isJson _).map _ f hf, fun hdeep => ?_⟩
  have hroom : 970 < v.depth := v.shownIn_nested _ f hf hdeep
  omega

theorem identifier? {id : Value} (h : v.JsonWithin P d) (hid : v.identifier? = some id) :
    id.JsonWithin P d :=
  h.mem_fields _ (Fields.mem_of_get? (Value.identifier?_eq_some_iff.mp hid).1)

theorem checkIdentifier_fails (h : v.JsonWithin P d) :
    OnlyFails (Fault.Due P d) v.checkIdentifier := by
  unfold checkIdentifier
  split
  · rename_i id hid
    exact (h.identifier? hid).shown_fails.map _
  · exact .ok ()

end Value.JsonWithin

theorem Marker.checkPointed_fails {id : Value} (h : id.JsonWithin P d) (property : String)
    (batch : List Value) : OnlyFails (Fault.Due P d) (checkPointed property id batch) := by
  unfold checkPointed
  split
  · exact h.shown_fails.map _
  · exact .ok ()

namespace Placeholder

variable {fields : Fields} (h : ∀ e ∈ fields, e.2.JsonWithin P d)
include h

theorem filling_fails (name : List Char) : OnlyFails (Fault.Due P d) (filling fields name) := by
  unfold filling
  split
  · exact .ok _
  · exact .ok _
  · exact .ok _
  · rename_i w _ _ hw
    exact (h _ (Fields.mem_of_get? hw)).markup_fails.map _

theorem fill_fails (cs : List Char) : OnlyFails (Fault.Due P d) (fill fields cs) := by
  fun_induction fill fields cs with
  | case1 => exact .ok _
  | case2 c rest hc name after hread ih =>
    exact (filling_fails h name).bind fun text _ => ih.bind fun others _ => .ok _
  | case3 c rest hc hread ih => exact ih.bind fun others _ => .ok _
  | case4 c rest hc ih => exact ih.bind fun others _ => .ok _

end Placeholder

theorem Placeholder.substitute_fails (h : v.JsonWithin P d) (template : String) :
    OnlyFails (Fault.Due P d) (substitute v template) := by
  cases v with
  | record fields => exact (fill_fails h.mem_fields template.toList).map _
  | _ => exact .ok template

theorem Target.write_fails (t : Target) (e : Element) (h : v.JsonWithin P d) :
    OnlyFails (Fault.Due P d) (t.write e v) := by
  cases t with
  | content => exact h.markup_fails.map _
  | «attribute» name => exact h.markup_fails.map _
  | input =>
    rw [write]
    split
    · exact .ok _
    · exact h.markup_fails.map _
  | choice => exact h.markup_fails.map _
  | selection => exact .ok _

theorem Setter.write_fails {s : Setter} (hs : s.obstacle = none) (e : Element)
    (h : v.JsonWithin P d) : OnlyFails (Fault.Due P d) (s.write e v) := by
  rw [write_of_free hs]
  exact Target.write_fails _ e h

/-- Agreement, with no fault but of one kind. -/
def Comparison.within (Q : Fault → Prop) : Comparison where
  Rel R x y := Reported.Agree R x y ∧ OnlyFails Q x.run
  ok h := ⟨.result [] h, .ok _⟩
  bind := by
    intro _ _ _ _ _ _ x y f g ⟨hxy, hx⟩ hfg
    refine ⟨hxy.bind fun a b ds ha hab => (hfg a b ds ha hab).1, fun e he => ?_⟩
    obtain hfirst | ⟨a, ds, ha, hrest⟩ := Reported.run_bind_eq_error.mp he
    · exact hx e hfirst
    · obtain ⟨b, -, hab⟩ := hxy.exists_of_run ha
      exact (hfg a b ds ha hab).2 e hrest

theorem Reported.lift_bind_fails {α β : Type} {Q : Fault → Prop} {x : Except Fault α}
    {f : α → Reported β} (hx : OnlyFails Q x) (hf : ∀ a, OnlyFails Q (f a).run) :
    OnlyFails Q (lift x >>= f).run := by
  cases x with
  | error e =>
    rintro _ ⟨⟩
    exact hx e rfl
  | ok a => exact hf a

theorem Comparison.within_refl {α : Type} {Q : Fault → Prop} {x : Reported α}
    (h : OnlyFails Q x.run) : (within Q).Rel Eq x x :=
  ⟨.refl x, h⟩

structure Context.JsonWithin (P : Int → Prop) (d : Nat) (c : Context) : Prop where
  current : c.current.JsonWithin P d
  batch : ∀ v ∈ c.batch, v.JsonWithin P d
  base : Location.IsPlain c.base

namespace Renderer

variable {c : Context}

theorem Holds.jsonWithin (hc : c.JsonWithin P d) (hv : Holds c v) : v.JsonWithin P d := by
  induction hv with
  | current => exact hc.current
  | batch mem => exact hc.batch _ mem
  | value property _ ih => exact ih.get?_getD property
  | item _ mem ih =>
    obtain ⟨hjson, hdepth⟩ := ih
    have hpart := Value.depth_le_depths mem
    rw [Value.depth] at hdepth
    cases hjson with
    | list h => exact ⟨h _ mem, by omega⟩
  | part _ _ ih => cases ih.isJson

theorem fillAttributes_fails (h : v.JsonWithin P d) (e : Element)
    (placeholders : List (String × String)) :
    OnlyFails (Fault.Due P d) (fillAttributes v e placeholders) := by
  induction placeholders generalizing e with
  | nil => exact .ok e
  | cons p rest ih =>
    obtain ⟨name, template⟩ := p
    exact (Placeholder.substitute_fails h template).bind fun text _ => ih (e.set name text)

theorem markIdentity_fails (r : Renderer) (s : Shape) (hc : c.JsonWithin P d)
    (hv : v.JsonWithin P d) (e : Element) :
    OnlyFails (Fault.Due P d) (r.markIdentity s c v e).run := by
  obtain ⟨base, hbase⟩ := Location.exists_withoutFragment hc.base
  unfold markIdentity
  rw [hbase]
  split
  · rename_i id _ hid
    rw [Reported.lift_ok, Reported.ok_bind]
    exact Reported.lift_bind_fails (hv.identifier? hid).shown_fails fun _ => .ok _
  · exact .ok _

theorem enter_fails (r : Renderer) (s : Shape) (c : Context) (hv : v.JsonWithin P d)
    (linked : Bool) : OnlyFails (Fault.Due P d) (r.enter s c v linked).run := by
  have hid : OnlyFails (Fault.Due P d) (if linked then v.checkIdentifier else .ok ()) := by
    split
    · exact hv.checkIdentifier_fails
    · exact .ok ()
  refine Reported.lift_bind_fails hid fun _ => ?_
  obtain ⟨-, -, hc⟩ | ⟨guard, -, hc⟩ := r.allow_cases s c v linked
  · rw [hc]
    exact .ok _
  · rw [hc]
    exact .ok _

theorem coupled_json (r : Renderer) (hr : ∀ e, (r.setters.setterFor e).obstacle = none)
    (P : Int → Prop) (d : Nat) (s : Shape) :
    Coupled (.within (Fault.Due P d)) r r (fun c c' => c' = c ∧ c.JsonWithin P d) s where
  marker := rfl
  vocabulary := rfl
  report _ := Comparison.within_refl (.ok _)
  current h := by rw [h.1]
  filtered h _ _ _ := by rw [h.1]
  pointed := by
    rintro _ c ⟨rfl, hc⟩ property _ id hid
    exact Comparison.within_refl
      ((Marker.checkPointed_fails (hid.jsonWithin hc) property c.batch).map _)
  resolved h _ := by rw [h.1]
  start h v hv :=
    Comparison.within_refl ((fillAttributes_fails (hv.jsonWithin h.2) _ s.placeholders).map _)
  write h v hv e :=
    Comparison.within_refl ((Setter.write_fails (hr e) e (hv.jsonWithin h.2)).map _)
  mark := by
    rintro _ c ⟨rfl, hc⟩ v hv e
    exact Comparison.within_refl (r.markIdentity_fails s hc (hv.jsonWithin hc) e)
  judge := by
    rintro _ c ⟨rfl, hc⟩ v hv
    refine Comparison.within_refl ?_
    unfold judge
    split
    · rw [Reported.run_ofRun]
      refine (evaluate_fails _ _ (hv.jsonWithin hc).isJson _ _ _).mono fun f hf => ⟨.inr hf, ?_⟩
      rintro rfl
      obtain ⟨_, -, -, h | h⟩ := hf <;> cases h
    · exact .ok _
  enter := by
    rintro _ c ⟨rfl, hc⟩ v linked way
    have hinner : (c.descend v linked).JsonWithin P d :=
      { current := way.holds.jsonWithin hc
        batch := hc.batch
        base := hc.base }
    exact ⟨r.agree_enter s fun _ => ⟨rfl, hinner⟩, r.enter_fails s c hinner.current linked⟩

def rule : Element := .mk (.named "p") [("data-constraint", "n != 'x'")] "shown" []

def huge : Int := Int.ofNat (Nat.pow 10 400)

def row : Value := .record [(.text "n", .int huge)]

theorem row_isJson : row.IsJson (· = huge) := by
  refine .record (fun e he => ?_) (fun e he => ?_)
  · obtain rfl := List.mem_singleton.mp he
    exact ⟨"n", rfl⟩
  · obtain rfl := List.mem_singleton.mp he
    exact .int rfl

def rowStart : Context := .ofRoot row [row] "http://example.com/#rows"

theorem rowStart_isJson : (∀ v ∈ rowStart.batch, v.IsJson (· = huge)) ∧
    Location.IsPlain rowStart.base := by
  refine ⟨fun v hv => ?_, Location.isPlain_of_ascii (by decide)⟩
  obtain rfl := List.mem_singleton.mp hv
  exact row_isJson

end Renderer
end Microdata
