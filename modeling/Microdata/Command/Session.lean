import Microdata.Command.Check
import Microdata.Command.Help
import Microdata.Command.Inspect
import Microdata.Command.Render
set_option autoImplicit false

namespace Microdata

def versionLine : String := " itembind  v0.1.0"

def Command.sources : Command → List String
  | .render r => r.config.toList ++ [r.template, r.data].filter (· != "-")
  | .analyze r => [r.template].filter (· != "-")
  | .extract r => [r.page].filter (· != "-")
  | _ => []

def Command.readsInput : Command → Bool
  | .render r => r.template == "-" || r.data == "-"
  | .analyze r => r.template == "-"
  | .extract r => r.page == "-"
  | _ => false

def Command.run (c : Command) (w : Surroundings) : Run Unit :=
  match c with
  | .help topic => .display .output (helpLines topic)
  | .version => .display .output [versionLine]
  | .setters => Registry.standard.run
  | .render request => request.run w
  | .analyze request => request.run w
  | .extract request => request.run w
  | .check request => request.run

def usageError : Run Unit := do
  .display .error ["usage error"]
  .exit 2

def Directory.session (d : Directory) (arguments : List String) (input : String) : Outcome :=
  match Command.ofArguments? arguments with
  | some c => d.play (c.run ⟨d.read, input⟩)
  | none => d.play usageError

end Microdata
