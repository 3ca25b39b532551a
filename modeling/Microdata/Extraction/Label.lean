import Microdata.Extraction
set_option autoImplicit false

namespace Microdata.Dialect

mutual
def bindingWidth (d : Dialect) : Element → Nat
  | .mk tag attributes text children =>
    max ((Element.mk tag attributes text children).get d.vocabulary.binding).length
      (bindingWidthBelow d children)

def bindingWidthBelow (d : Dialect) : List Child → Nat
  | [] => 0
  | (e, _) :: rest => max (bindingWidth d e) (bindingWidthBelow d rest)
end

/-- The name of a property to which no element is bound: it is longer than all bindings. -/
def freshName (d : Dialect) (e : Element) : String :=
  String.ofList (List.replicate (d.bindingWidth e + 1) 'x')

def numberElement (d : Dialect) (name : String) (number : Nat) : Child :=
  (.mk (.named "meta") [(d.vocabulary.binding, name), ("content", toString number)] "" [], "")

mutual
/-- An element, and those below it, with labels under a name; `next` is the first free number, and
the number that is free behind the element is given with it. -/
def labelled (d : Dialect) (name : String) (next : Nat) : Element → Element × Nat
  | .mk tag attributes text children =>
    let e := Element.mk tag attributes text children
    let below := labelledBelow d name (next + 1) children
    let children := if e.has d.vocabulary.scope && e.get d.vocabulary.binding != "" then
        d.numberElement name next :: below.1
      else below.1
    (.mk tag attributes text children, below.2)

def labelledBelow (d : Dialect) (name : String) (next : Nat) : List Child → List Child × Nat
  | [] => ([], next)
  | (e, tail) :: rest =>
    let first := labelled d name next e
    let others := labelledBelow d name first.2 rest
    ((first.1, tail) :: others.1, others.2)
end

end Microdata.Dialect
