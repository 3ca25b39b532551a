import Microdata.Fault
set_option autoImplicit false

namespace Microdata

inductive ReadError where
  | malformed
  | fault (f : Fault)
  deriving DecidableEq, Repr

def need {α : Type} : Option α → Except ReadError α
  | some a => .ok a
  | none => .error .malformed

def orFault {α : Type} : Except Fault α → Except ReadError α
  | .ok a => .ok a
  | .error f => .error (.fault f)

end Microdata
