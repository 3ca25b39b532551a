import Microdata.Template.Selector
import Microdata.Vocabulary
set_option autoImplicit false

namespace Microdata

inductive TemplateError where
  | missing (id : Option String)
  | notTemplate (description : String)
  | noContent
  | badSelector (selector : String) (error : SelectorError)
  | noMatch (selector : String)
  | fault (f : Fault)
  deriving DecidableEq, Repr

def TemplateError.message : TemplateError → String
  | missing id =>
    "document contains no <template> element" ++ match id with
      | some id => if id = "" then "" else " with id " ++ Text.quoted id
      | none => ""
  | notTemplate description => "expected a <template> element, got " ++ description
  | noContent => "template has no element content"
  | badSelector selector error =>
    "invalid root selector " ++ Text.quoted selector ++ ": " ++ error.message
  | noMatch selector =>
    "root selector " ++ Text.quoted selector ++ " matched no element in the template"
  | fault f => f.message

/-- The roots of a template: what the selector finds, or else the children that declare a type, or
else all children. -/
def rootElements (template : Element) (selector : Option String) (v : Vocabulary) :
    Except TemplateError (List Element) :=
  let selector := selector.getD ""
  if selector = "" then
    let children := (template.children.map (·.1)).filter fun e => e.tag ≠ .comment
    let typed := children.filter fun e => e.get v.type ≠ ""
    if children.isEmpty then .error .noContent
    else .ok (if typed.isEmpty then children else typed)
  else
    match Selector.select selector template with
    | .error (.fault f) => .error (.fault f)
    | .error e => .error (.badSelector selector e)
    | .ok [] => .error (.noMatch selector)
    | .ok roots => .ok roots

end Microdata
