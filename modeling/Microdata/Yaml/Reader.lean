import Microdata.Yaml.Assembly
set_option autoImplicit false

namespace Microdata.Yaml

/-- The value of a text, in which collections deeper than `depth` are empty. -/
def readTo (depth : Nat) (s : String) : Except ReadError Value := do
  match ← document s with
  | (none, _) => .ok .none
  | (some id, nodes) => .ok (Part.valueTo (← assemble id nodes) depth id)

def read (s : String) : Except ReadError Value := do
  match ← document s with
  | (none, _) => .ok .none
  | (some id, nodes) =>
    let parts ← assemble id nodes
    if Part.isWithin parts (parts.size + 1) id then .ok (Part.valueTo parts (parts.size + 1) id)
    else .error (.fault .tooDeep)

end Microdata.Yaml
