import Microdata.Markup.Builder
import Microdata.Location.Basic
set_option autoImplicit false

namespace Microdata.Markup

def baseReference? (root : Element) : Option String :=
  ((Element.descendantsOf root.children).find? fun e => e.isTagged "base" && e.has "href").map
    (·.get "href")

/-- The page that a text describes, read from a location, which a `base` element in it may move. -/
def parsePage (text base : String) : Except Fault Document := do
  let root := build (← events text)
  match baseReference? root with
  | none => .ok ⟨root, base⟩
  | some href => .ok ⟨root, ← Location.resolve base href⟩

def parseElement (text : String) : Except Fault Element := do
  let page ← parsePage text ""
  match page.root.children with
  | [(e, _)] => .ok e
  | cs => .error (.elementCount cs.length)

end Microdata.Markup
