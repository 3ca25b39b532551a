import Microdata.Element
import Microdata.Text.Blank
set_option autoImplicit false

namespace Microdata.Form

def idleTypes : List String := ["submit", "button", "reset", "image", "file"]

def inputType (e : Element) : String :=
  let written := e.get "type"
  if written = "" then "text" else Text.lower written

def isToggle (type : String) : Bool := type == "checkbox" || type == "radio"

/-- The value of an option: its attribute, or else its text. -/
def optionValue (e : Element) : String :=
  (e.get? "value").getD (Text.strip e.textContent)

def options (select : Element) : List Element :=
  select.descendants.filter (·.isTagged "option")

/-- The chosen options. Where only one can be chosen, the last one counts, and the first is chosen
if none is marked. -/
def chosenOptions (select : Element) : List Element :=
  let all := options select
  let marked := all.filter (·.has "selected")
  if select.has "multiple" then marked
  else if marked.isEmpty then all.take 1
  else marked.drop (marked.length - 1)

def controlValues (e : Element) : List String :=
  match e.tagName with
  | "input" =>
    let type := inputType e
    if idleTypes.contains type then []
    else if isToggle type then if e.has "checked" then [(e.get? "value").getD "on"] else []
    else [e.get "value"]
  | "textarea" => [e.textContent]
  | "select" => (chosenOptions e).map optionValue
  | _ => []

def pairs (form : Element) : List (String × String) :=
  form.descendants.flatMap fun e =>
    let name := e.get "name"
    if name = "" || e.has "disabled" then [] else (controlValues e).map fun v => (name, v)

end Microdata.Form
