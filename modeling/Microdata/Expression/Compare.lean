import Microdata.Expression.Token
import Microdata.Value.Scalar
set_option autoImplicit false

namespace Microdata

namespace BinaryOp

/-- What a comparison says, given whether the sides are equal, less and greater. -/
def decide (op : BinaryOp) (equal less greater : Bool) : Bool :=
  match op with
  | eq => equal
  | neq => !equal
  | lt => less
  | gt => greater
  | lte => less || equal
  | gte => greater || equal
  | and | or => false

end BinaryOp

inductive Operands where
  | numbers (left right : Binary64)
  | texts (left right : String)

def Operands.compare (op : BinaryOp) : Operands → Bool
  | numbers x y => op.decide (x.eq y) (x.lt y) (y.lt x)
  | texts s t => op.decide (s == t) (s < t) (t < s)

/-- The sides of a comparison, as texts if there is room to write both. -/
def Operands.of (left right : Value) (room : Nat := Value.room) : Except Fault Operands := do
  let x ← left.number?
  let y ← right.number?
  match x, y with
  | some x, some y => .ok (numbers x y)
  | _, _ =>
    let s ← left.markupIn room
    let t ← right.markupIn room
    .ok (texts s t)

def compareValues (op : BinaryOp) (left right : Value) (room : Nat := Value.room) :
    Except Fault Bool :=
  (Operands.of left right room).map (·.compare op)

end Microdata
