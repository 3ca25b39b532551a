import Microdata.Markup.Event
import Microdata.Element
set_option autoImplicit false

/-!
The tree that events build. The innermost open element gets what comes next. Elements that hold
nothing close at once; some elements close when one starts that cannot stand inside them; an end tag
closes everything up to the element that it names, and is ignored if there is none.
-/

namespace Microdata.Markup

def voidTags : List String :=
  ["area", "base", "br", "col", "embed", "hr", "img", "input", "link", "meta", "param", "source",
    "track", "wbr"]

def isVoid (tag : String) : Bool := voidTags.contains tag

/-- The open elements that close when an element starts. -/
def closedBy (tag : String) : List String :=
  match tag with
  | "li" => ["li"]
  | "p" => ["p"]
  | "option" => ["option"]
  | "dt" | "dd" => ["dt", "dd"]
  | "tr" => ["tr", "td", "th"]
  | "td" | "th" => ["td", "th"]
  | _ => []

structure OpenElement where
  tag : String
  element : Element

/-- The open elements, innermost first, and the container of them all. -/
structure Builder where
  inner : List OpenElement
  root : Element

namespace Builder

def empty : Builder := ⟨[], .mk Document.rootTag [] "" []⟩

def update (f : Element → Element) (b : Builder) : Builder :=
  match b.inner with
  | [] => ⟨[], f b.root⟩
  | o :: rest => ⟨{ o with element := f o.element } :: rest, b.root⟩

def closeTop (b : Builder) : Builder :=
  match b.inner with
  | [] => b
  | o :: rest => update (·.append (o.element, "")) ⟨rest, b.root⟩

def closeMany : Nat → Builder → Builder
  | 0, b => b
  | n + 1, b => closeMany n b.closeTop

def closeImplied (tag : String) (b : Builder) : Builder :=
  match b.inner with
  | [] => b
  | o :: _ => if (closedBy tag).contains o.tag then b.closeTop else b

def step (b : Builder) : Event → Builder
  | .start tag attributes =>
    let b := b.closeImplied tag
    let e := Element.mk (.named tag) attributes "" []
    if isVoid tag then b.update (·.append (e, "")) else ⟨⟨tag, e⟩ :: b.inner, b.root⟩
  | .empty tag attributes => b.update (·.append (.mk (.named tag) attributes "" [], ""))
  | .stop tag =>
    if isVoid tag then b
    else match b.inner.findIdx? fun o => o.tag == tag with
      | none => b
      | some n => closeMany (n + 1) b
  | .data text => b.update (·.appendText text)

def finish (b : Builder) : Element := (closeMany b.inner.length b).root

end Builder

def build (events : List Event) : Element := (events.foldl Builder.step .empty).finish

end Microdata.Markup
