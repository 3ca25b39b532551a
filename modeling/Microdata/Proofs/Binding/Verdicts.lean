import Microdata.Proofs.Binding.Links
import Microdata.Proofs.Value.Nesting
import Microdata.Proofs.Value.Ordering
set_option autoImplicit false

namespace Microdata

variable {p : String} {e e' : Expr} {record : Fields}

namespace Expr

theorem eval_binary_eq {v w : Value} {left right : Expr} {s : Span} {budget : Nat}
    (hl : left.eval record budget = .ok v) (hr : right.eval record budget = .ok w) :
    (Expr.binary .eq left right s).eval record (budget + 1) =
      (compareValues .eq v w budget).map .bool := by
  rw [Expr.eval, hl, hr]
  change (compareValues .eq v w budget >>= fun b => .ok (Value.bool b)) = _
  cases compareValues .eq v w budget <;> rfl

theorem Requests.eval_cases (h : e.Requests p) (record : Fields) :
    e.eval record depthLimit =
        (compareValues .eq (identifier record) (property record p) 969).map .bool ∨
      e.eval record depthLimit =
        (compareValues .eq (property record p) (identifier record) 969).map .bool := by
  cases h with
  | identifierFirst => exact .inl (eval_binary_eq rfl rfl)
  | identifierLast => exact .inr (eval_binary_eq rfl rfl)

theorem Requests.eval_eq_ok_iff (h : e.Requests p) {v : Value} :
    e.eval record depthLimit = .ok v ↔ ∃ b,
      compareValues .eq (identifier record) (property record p) 969 = .ok b ∧ .bool b = v := by
  obtain heval | heval := h.eval_cases record
  · rw [heval, map_eq_ok]
  · rw [heval, map_eq_ok]
    exact exists_congr fun b => and_congr_left' ⟨compareValues_flip, compareValues_flip⟩

theorem Requests.eval_nested (h : e.Requests p)
    (hdeep : e.eval record depthLimit = .error .tooDeep) :
    321 < max (identifier record).depth (property record p).depth := by
  obtain heval | heval := h.eval_cases record
  · have := (compareValues_nested _ _ _ _).map _ .tooDeep (heval.symm.trans hdeep) rfl
    omega
  · have := (compareValues_nested _ _ _ _).map _ .tooDeep (heval.symm.trans hdeep) rfl
    omega

end Expr

variable {m : Marker} {source path : String} {v : Value} {batch : List Value} {strict : Bool}
  {verdict : Verdict} {ds : List Diagnostic}

/-- A record of a batch with an identifier that no record in front of it has. -/
def IsFirst (id : String) (batch : List Value) (r : Fields) : Prop :=
  (Value.record r).textId? = some id ∧ ∃ before after, batch = before ++ .record r :: after ∧
    ∀ w ∈ before, w.textId? ≠ some id

theorem Value.record_of_textId? {id : String} (h : v.textId? = some id) : v = .record v.fields := by
  cases v with
  | record fields => rfl
  | _ => cases h

theorem isFirst_of_resolve? {w : Value} {r : Fields} (h : m.resolve? w batch = some r) :
    ∃ x, w = .text (m.text ++ x) ∧ IsFirst x batch r := by
  unfold Marker.resolve? at h
  split at h
  · cases h
  · rename_i x htarget
    obtain ⟨u, hu, rfl⟩ := Option.map_eq_some_iff.mp h
    obtain ⟨hid, before, after, hbatch, hbefore⟩ := List.find?_eq_some_iff_append.mp hu
    rw [Marker.identifies_iff] at hid
    have hrecord := Value.record_of_textId? hid
    refine ⟨x, (Marker.target?_eq_some_iff.mp htarget).1, hrecord ▸ hid, before, after, ?_, ?_⟩
    · rw [← hrecord, hbatch]
    · intro w hw hwid
      have hother := hbefore w hw
      rw [Marker.identifies_iff.mpr hwid] at hother
      cases hother

/-- The verdict on a constraint over values that are nested too deeply. -/
def nestedReport (source path : String) (strict : Bool) : Verdict × List Diagnostic :=
  (Diagnostic.malformed source "nested too deeply" path).failing strict

/-- A request comes to the same however it is put, or it is given up for nesting, and then nothing
comes of the other way to put it but that it is given up too. -/
theorem evaluate_of_requests {other : String} (hp : parseExpression source = .ok e)
    (he : e.Requests p) (hp' : parseExpression other = .ok e') (he' : e'.Requests p)
    (h : evaluate m source v batch path strict = .ok (verdict, ds)) :
    evaluate m other v batch path strict = .ok (verdict, ds) ∨
      e.eval v.fields Expr.depthLimit = .error .tooDeep ∧
        (verdict, ds) = nestedReport source path strict ∧
        ∀ x, evaluate m other v batch path strict = .ok x → x = nestedReport other path strict := by
  rw [evaluate_of_parsed hp] at h
  rw [evaluate_of_parsed hp', he.followed?_eq he']
  cases hfollowed : followed? m v.fields e with
  | some q =>
    rw [hfollowed] at h
    exact .inl h
  | none =>
    rw [hfollowed] at h
    cases hx : e.eval v.fields Expr.depthLimit with
    | ok x =>
      have hx' := he'.eval_eq_ok_iff.mpr (he.eval_eq_ok_iff.mp hx)
      rw [hx] at h
      simp only [hx']
      exact .inl h
    | error f =>
      have hfails (x : Value) : e'.eval v.fields Expr.depthLimit ≠ .ok x := by
        intro hx'
        rw [he.eval_eq_ok_iff.mpr (he'.eval_eq_ok_iff.mp hx')] at hx
        cases hx
      rw [hx] at h
      cases f with
      | tooDeep =>
        refine .inr ⟨rfl, (Except.ok.inj h).symm, fun x hother => ?_⟩
        cases hx' : e'.eval v.fields Expr.depthLimit with
        | ok y => exact absurd hx' (hfails y)
        | error f' =>
          rw [hx'] at hother
          cases f' with
          | tooDeep => exact (Except.ok.inj hother).symm
          | _ => cases hother
      | _ => cases h

def authors : List Value :=
  [.record [(.text "@id", .text "ada"), (.text "name", .text "Ada")],
    .record [(.text "@id", .text "ada"), (.text "name", .text "Byron")]]

def essay : Value := .record [(.text "@id", .text "p1"), (.text "author", .text "#ada")]

def nestedText (n : Nat) : Value := Nat.repeat (fun v => .list [v]) n (.text "x")

def nestedRecord (n : Nat) : Value := .record [(.text "p", nestedText n)]

theorem markupIn_nestedText {n room : Nat} (h : room < 3 * n) :
    (nestedText n).markupIn room = .error .tooDeep := by
  induction n generalizing room with
  | zero => exact absurd h (Nat.not_lt_zero room)
  | succ n ih =>
    change (Value.list [nestedText n]).markupIn room = _
    rw [Value.markupIn]
    split
    · rfl
    · rw [Value.markupsIn, ih (by omega)]
      rfl

theorem number?_nestedText {n : Nat} (h : 0 < n) : (nestedText n).number? = .ok none := by
  cases n with
  | zero => cases h
  | succ n => rfl

theorem compareValues_nestedText {n : Nat} (h : 969 < 3 * n) :
    compareValues .eq (.text "") (nestedText n) 969 = .error .tooDeep ∧
      compareValues .eq (nestedText n) (.text "") 969 = .error .tooDeep := by
  have hnumber := number?_nestedText (n := n) (by omega)
  have hmarkup := markupIn_nestedText h
  have hempty : (Value.text "").number? = .ok none := rfl
  have htext : (Value.text "").markupIn 969 = .ok "" := by rw [Value.markupIn]
  constructor
  · rw [compareValues, Operands.of, hnumber, hmarkup, hempty, htext]
    rfl
  · rw [compareValues, Operands.of, hnumber, hmarkup, hempty]
    rfl

theorem evaluate_nestedRecord {n : Nat} (h : 969 < 3 * n) (hp : parseExpression source = .ok e)
    (he : e.Requests "p") : evaluate m source (nestedRecord n) batch path strict =
      .ok (nestedReport source path strict) := by
  obtain ⟨n, rfl⟩ : ∃ k, n = k + 1 := ⟨n - 1, by omega⟩
  have hfollowed : followed? m (nestedRecord (n + 1)).fields e = none := by
    rw [followed?, Expr.requested?_eq_some_iff.mpr he]
    rfl
  have heval : e.eval (nestedRecord (n + 1)).fields Expr.depthLimit = .error .tooDeep := by
    obtain ⟨hfirst, hlast⟩ := compareValues_nestedText h
    obtain heval | heval := he.eval_cases (nestedRecord (n + 1)).fields
    · exact heval.trans (congrArg (Except.map Value.bool) hfirst)
    · exact heval.trans (congrArg (Except.map Value.bool) hlast)
  rw [evaluate_of_parsed hp, hfollowed, heval]
  rfl

end Microdata
