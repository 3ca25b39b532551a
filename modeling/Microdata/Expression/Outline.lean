import Microdata.Expression.Basic
import Microdata.Json.Writer
set_option autoImplicit false

namespace Microdata

def Span.outline (s : Span) : Value :=
  .record [(.text "start", .int s.start), (.text "end", .int s.finish)]

namespace Expr

def node (kind : String) (entries : List (String × Value)) (span : Span) : Value :=
  .record ((.text "kind", .text kind) :: entries.map (fun (n, v) => (Key.text n, v)) ++
    [(.text "span", span.outline)])

def outline : (budget : Nat) → Expr → Except Fault Value
  | 0, _ => .error .tooDeep
  | _ + 1, text value s => .ok (node "StringLit" [("value", .text value)] s)
  | _ + 1, number value s => .ok (node "NumberLit" [("value", .float value)] s)
  | _ + 1, bool value s => .ok (node "BoolLit" [("value", .bool value)] s)
  | _ + 1, name n s => .ok (node "Identifier" [("name", .text n)] s)
  | _ + 1, recordId s => .ok (node "RecordId" [] s)
  | budget + 1, binary op left right s => do
    let l ← outline budget left
    let r ← outline budget right
    .ok (node "BinaryOpExpr" [("op", .text op.name), ("left", l), ("right", r)] s)
  | budget + 1, not operand s => do
    let e ← outline budget operand
    .ok (node "UnaryOpExpr" [("op", .text "NOT"), ("operand", e)] s)

end Expr
end Microdata
