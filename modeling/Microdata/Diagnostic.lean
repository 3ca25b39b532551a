set_option autoImplicit false

namespace Microdata

inductive Severity where
  | error | warning | information | hint
  deriving DecidableEq, Repr

def Severity.label : Severity → String
  | error => "ERROR"
  | warning => "WARNING"
  | information => "INFORMATION"
  | hint => "HINT"

structure Diagnostic where
  severity : Severity := .warning
  code : String
  message : String
  path : String := ""
  suggestion : Option String := none
  rule : String := ""
  deriving DecidableEq, Repr

namespace Diagnostic

def isError (d : Diagnostic) : Bool := d.severity = .error

/-- The diagnostic as it is kept: with `strict`, warnings are errors. -/
def promote (strict : Bool) (d : Diagnostic) : Diagnostic :=
  if strict && d.severity = .warning then { d with severity := .error } else d

/-- The code and severity, the place, the message, and a hint. -/
def text (d : Diagnostic) : String :=
  let place := if d.path = "" then "" else " at " ++ d.path
  let hint := match d.suggestion with
    | some s => if s = "" then "" else " (hint: " ++ s ++ ")"
    | none => ""
  "[" ++ d.code ++ "] " ++ d.severity.label ++ place ++ ": " ++ d.message ++ hint

end Diagnostic
end Microdata
