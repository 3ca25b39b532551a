import Microdata.Config
import Microdata.Yaml.Reader
set_option autoImplicit false

namespace Microdata

namespace Config

/-- How deep the values of settings are looked at: a name of the vocabulary stands in a record
inside of another. -/
def depth : Nat := 3

def ofYaml (path text : String) : Except SettingsError Config :=
  match Yaml.readTo depth text with
  | .error .malformed => .error (.setting ⟨.invalidYaml path, none⟩)
  | .error (.fault f) => .error (.fault f)
  | .ok .none => .ok {}
  | .ok v => ofValue v

end Config
end Microdata
