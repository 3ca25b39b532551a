import Microdata.Form.Controls
import Microdata.Value.Scalar
set_option autoImplicit false

namespace Microdata

inductive Target where
  | content
  | «attribute» (name : String)
  /-- The state of an input: whether it is checked, or its value. -/
  | input
  /-- The options below the element: those with the value are selected. -/
  | choice
  | selection
  deriving DecidableEq, Repr

structure Setter where
  name : String
  target : Target
  /-- What making an instance of it ends in, if none can be made. -/
  obstacle : Option Fault := none
  deriving DecidableEq, Repr

namespace Element

/-- An attribute that is there or not: if it is, its value is its name. -/
def toggle (e : Element) (name : String) (on : Bool) : Element :=
  if on then e.set name name else e.remove name

mutual
def selectOptions (wanted : String) : Element → Element
  | .mk tag attributes text children =>
    let e := Element.mk tag attributes text children
    let e := if e.isTagged "option" then e.toggle "selected" (Form.optionValue e == wanted) else e
    .mk tag e.attributes text (selectOptionsBelow wanted children)

def selectOptionsBelow (wanted : String) : List Child → List Child
  | [] => []
  | (e, tail) :: rest => (e.selectOptions wanted, tail) :: selectOptionsBelow wanted rest
end

end Element

def Target.write (t : Target) (e : Element) (v : Value) : Except Fault Element :=
  match t with
  | content => v.markup.map e.withText
  | «attribute» name => v.markup.map (e.set name)
  | input =>
    if Form.isToggle (Form.inputType e) then .ok (e.toggle "checked" v.isTruthy)
    else v.markup.map (e.set "value")
  | choice => v.markup.map fun wanted => e.selectOptions wanted
  | selection => .ok (e.toggle "selected" v.isTruthy)

namespace Setter

def write (s : Setter) (e : Element) (v : Value) : Except Fault Element :=
  match s.obstacle with
  | none => s.target.write e v
  | some f => .error f

theorem write_of_free {s : Setter} (h : s.obstacle = none) (e : Element) (v : Value) :
    s.write e v = s.target.write e v := by
  rw [write, h]

theorem write_eq_ok {s : Setter} {e e' : Element} {v : Value} :
    s.write e v = .ok e' ↔ s.obstacle = none ∧ s.target.write e v = .ok e' := by
  unfold write
  cases s.obstacle with
  | none => simp
  | some f => simp

def textContent : Setter := { name := "TextContentSetter", target := .content }
def ofAttribute : Setter := { name := "AttributeSetter", target := .attribute "value" }
def input : Setter := { name := "InputSetter", target := .input }
def formText : Setter := { name := "FormTextSetter", target := .content }
def select : Setter := { name := "SelectSetter", target := .choice }
def option : Setter := { name := "OptionSetter", target := .selection }
def content : Setter := { name := "ContentSetter", target := .attribute "content" }
def source : Setter := { name := "SourceSetter", target := .attribute "src" }
def href : Setter := { name := "HrefSetter", target := .attribute "href" }
def data : Setter := { name := "DataSetter", target := .attribute "data" }
def dateTime : Setter := { name := "DateTimeSetter", target := .attribute "datetime" }
def valueAttribute : Setter := { name := "ValueAttributeSetter", target := .attribute "value" }

def builtIn : List Setter :=
  [textContent, ofAttribute, input, formText, select, option, content, source, href, data,
    dateTime, valueAttribute]

end Setter
end Microdata
