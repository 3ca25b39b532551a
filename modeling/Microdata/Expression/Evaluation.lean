import Microdata.Expression.Parser
import Microdata.Expression.Compare
import Microdata.Diagnostic
import Microdata.Reference
set_option autoImplicit false

/-!
Constraints: whether an expression holds of a record. An expression that compares the record's
identifier with a property asks for more: if the property holds a reference, the constraint passes
only if the batch has the record that is meant, and that record takes over.
-/

namespace Microdata

namespace Expr

/-- The levels of an expression that can be evaluated. -/
def depthLimit : Nat := 970

def property (record : Fields) (name : String) : Value :=
  match record.get? name with
  | none | some .none => .text ""
  | some v => v

def identifier (record : Fields) : Value :=
  match record.get? idKey with
  | none => .text ""
  | some v => if v.isPresent then v else .text ""

/-- The value of an expression. The second operand of a connective counts only if the first leaves
the answer open. What is compared is written as text in the room that the expression leaves. -/
def eval (record : Fields) : (budget : Nat) → Expr → Except Fault Value
  | 0, _ => .error .tooDeep
  | _ + 1, text value _ => .ok (.text value)
  | _ + 1, number value _ => .ok (.float value)
  | _ + 1, bool value _ => .ok (.bool value)
  | _ + 1, recordId _ => .ok (identifier record)
  | _ + 1, name n _ => .ok (property record n)
  | budget + 1, not operand _ => do
    let v ← eval record budget operand
    .ok (.bool !v.isTruthy)
  | budget + 1, binary op left right _ => do
    let v ← eval record budget left
    match op with
    | .and =>
      if v.isTruthy then .ok (.bool (← eval record budget right).isTruthy) else .ok (.bool false)
    | .or =>
      if v.isTruthy then .ok (.bool true) else .ok (.bool (← eval record budget right).isTruthy)
    | op => .ok (.bool (← compareValues op v (← eval record budget right) budget))

/-- The property that an expression compares with the record's identifier, on either side. -/
def requested? : Expr → Option String
  | binary .eq (recordId _) (name n _) _ => some n
  | binary .eq (name n _) (recordId _) _ => some n
  | _ => none

end Expr

/-- Whether a constraint passed, and the record that takes over. -/
structure Verdict where
  passed : Bool
  resolved : Option Fields

namespace Verdict

def failed : Verdict := ⟨false, none⟩

def ofBool (b : Bool) : Verdict := ⟨b, none⟩

end Verdict

def ExpressionError.message (source : String) : ExpressionError → String
  | lexical e => e.message
  | parsing (.errors es) => ParseError.report source es
  | parsing .tooDeep => "nested too deeply"

namespace Diagnostic

def malformed (source reason path : String) : Diagnostic where
  code := "BIND004"
  message := "Malformed constraint " ++ Text.quoted source ++ ": " ++ reason
  path := path
  suggestion := some "Check the expression with 'itembind check'"
  rule := "constraint"

def dangling (reference : Value) (property path rule : String) : Diagnostic where
  severity := .information
  code := "BIND005"
  message := "Reference " ++ reference.literal ++ " in property " ++ Text.quoted property ++
    " matches no record"
  path := path
  rule := rule

end Diagnostic

def evaluate (marker : Marker) (source : String) (record : Value) (batch : List Value)
    (path : String) (strict : Bool := false) : Except Fault (Verdict × List Diagnostic) :=
  let failing (d : Diagnostic) := .ok (.failed, [d.promote strict])
  match parseExpression source with
  | .error e => failing (.malformed source (e.message source) path)
  | .ok expr =>
    let record := record.fields
    let reference := expr.requested?.bind fun p => do
      let v ← record.get? p
      let _ ← marker.target? v
      some (p, v)
    match reference with
    | some (p, v) =>
      match marker.resolve? v batch with
      | none => failing (.dangling v p path "constraint")
      | some r => .ok (⟨true, some r⟩, [])
    | none =>
      match expr.eval record Expr.depthLimit with
      | .ok v => .ok (.ofBool v.isTruthy, [])
      | .error .tooDeep => failing (.malformed source "nested too deeply" path)
      | .error f => .error f

end Microdata
