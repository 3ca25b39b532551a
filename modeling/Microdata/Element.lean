import Microdata.Text.Lowercase
import Microdata.Pairs
set_option autoImplicit false

namespace Microdata

inductive Tag where
  | named (name : String)
  | comment
  deriving DecidableEq, Repr

inductive Element where
  | mk (tag : Tag) (attributes : List (String × String)) (text : String)
      (children : List (Element × String))
  deriving Repr

instance : Inhabited Element := ⟨.mk .comment [] "" []⟩

/-- An element and the text behind it, inside its parent. -/
abbrev Child := Element × String

namespace Element

def tag : Element → Tag
  | mk t _ _ _ => t

def attributes : Element → List (String × String)
  | mk _ a _ _ => a

/-- The text in front of the first child. -/
def text : Element → String
  | mk _ _ t _ => t

def children : Element → List Child
  | mk _ _ _ c => c

/-- The tag in lower case; a comment has the empty name. -/
def tagName (e : Element) : String :=
  match e.tag with
  | .named name => Text.lower name
  | .comment => ""

def isTagged (e : Element) (name : String) : Bool :=
  e.tag = .named name

def get? (e : Element) (name : String) : Option String := lookup? name e.attributes

def has (e : Element) (name : String) : Bool := (e.get? name).isSome

def get (e : Element) (name : String) : String := (e.get? name).getD ""

def set (e : Element) (name value : String) : Element :=
  mk e.tag (assign name value e.attributes) e.text e.children

def remove (e : Element) (name : String) : Element :=
  mk e.tag (erase name e.attributes) e.text e.children

def shell (e : Element) : Element := mk e.tag e.attributes e.text []

def withText (e : Element) (text : String) : Element := mk e.tag e.attributes text []

/-- Children with more text behind the last one. -/
def appendToLast (text : String) : List Child → List Child
  | [] => []
  | [(e, tail)] => [(e, tail ++ text)]
  | c :: rest => c :: appendToLast text rest

def appendText (e : Element) (text : String) : Element :=
  match e.children with
  | [] => mk e.tag e.attributes (e.text ++ text) []
  | cs => mk e.tag e.attributes e.text (appendToLast text cs)

def append (e : Element) (c : Child) : Element :=
  mk e.tag e.attributes e.text (e.children ++ [c])

@[simp] theorem tag_mk (t : Tag) (a : List (String × String)) (s : String) (c : List Child) :
    (mk t a s c).tag = t := rfl

@[simp] theorem attributes_mk (t : Tag) (a : List (String × String)) (s : String)
    (c : List Child) : (mk t a s c).attributes = a := rfl

@[simp] theorem text_mk (t : Tag) (a : List (String × String)) (s : String) (c : List Child) :
    (mk t a s c).text = s := rfl

@[simp] theorem children_mk (t : Tag) (a : List (String × String)) (s : String)
    (c : List Child) : (mk t a s c).children = c := rfl

@[simp] theorem tag_set (e : Element) (name value : String) : (e.set name value).tag = e.tag := rfl

theorem get?_set (e : Element) (name value x : String) :
    (e.set name value).get? x = if name = x then some value else e.get? x :=
  lookup?_assign name value x e.attributes

theorem get?_remove (e : Element) (name x : String) :
    (e.remove name).get? x = if name = x then none else e.get? x :=
  lookup?_erase name x e.attributes

@[simp] theorem children_append (e : Element) (c : Child) :
    (e.append c).children = e.children ++ [c] := rfl

@[simp] theorem tag_appendText (e : Element) (text : String) : (e.appendText text).tag = e.tag := by
  unfold appendText
  split <;> rfl

@[simp] theorem attributes_appendText (e : Element) (text : String) :
    (e.appendText text).attributes = e.attributes := by
  unfold appendText
  split <;> rfl

theorem appendToLast_empty (cs : List Child) : appendToLast "" cs = cs := by
  fun_induction appendToLast "" cs with
  | case1 => rfl
  | case2 e tail => rw [String.append_empty]
  | case3 c rest _ ih => rw [ih]

@[simp] theorem appendText_empty (e : Element) : e.appendText "" = e := by
  obtain ⟨tag, attributes, text, children⟩ := e
  unfold appendText
  split
  · rename_i h
    obtain rfl : children = [] := h
    simp
  · simp [appendToLast_empty]

theorem appendToLast_append (text : String) (cs : List Child) (e : Element) (tail : String) :
    appendToLast text (cs ++ [(e, tail)]) = cs ++ [(e, tail ++ text)] := by
  induction cs with
  | nil => rfl
  | cons c cs ih =>
    cases cs with
    | nil => rfl
    | cons d cs => exact congrArg (c :: ·) ih

theorem appendText_append (e d : Element) (tail text : String) :
    (e.append (d, tail)).appendText text = e.append (d, tail ++ text) := by
  unfold appendText
  split
  · rename_i h
    simp at h
  · simp [append, appendToLast_append]

mutual
def textContent : Element → String
  | mk _ _ text children => text ++ textContents children

def textContents : List Child → String
  | [] => ""
  | (e, tail) :: rest => e.textContent ++ tail ++ textContents rest
end

mutual
/-- The element and everything below it, in document order. -/
def descendants : Element → List Element
  | mk tag attributes text children =>
    mk tag attributes text children :: descendantsOf children

def descendantsOf : List Child → List Element
  | [] => []
  | (e, _) :: rest => e.descendants ++ descendantsOf rest
end

end Element

structure Document where
  root : Element
  base : String := ""

namespace Document

def rootTag : Tag := .named "#fragment"

def elements (d : Document) : List Element := d.root.children.map (·.1)

def findTemplate? (d : Document) (id : Option String) : Option Element :=
  d.root.descendants.find? fun e =>
    e.isTagged "template" && match id with
      | none => true
      | some id => e.get? "id" == some id

/-- The elements that open a scope and are not bound to a property. -/
def items (d : Document) (binding scope : String) : List Element :=
  d.root.descendants.filter fun e => e.has scope && !e.has binding

end Document
end Microdata
