import Microdata.Value.Literal
import Microdata.Fault
set_option autoImplicit false

/-!
References between the records of a batch: a marker in front of the identifier of the record that
is meant. Main definitions: `resolve?` finds that record, `refersTo` asks whether a value points at
an identifier, and `referencing` lists the records that do.
-/

namespace Microdata

def idKey : String := "@id"
def typeKey : String := "@type"
def contextKey : String := "@context"

structure Marker where
  text : String
  nonempty : text ≠ ""

namespace Marker

def ofText (s : String) : Except Fault Marker :=
  if h : s = "" then .error .emptyMarker else .ok ⟨s, h⟩

def standard : Marker := ⟨"#", by decide⟩

/-- A text without as many characters at its front as the marker has. -/
def strip (m : Marker) (s : String) : String :=
  String.ofList (s.toList.drop m.text.length)

def target? (m : Marker) : Value → Option String
  | .text s =>
    if m.text.length < s.length && m.text.toList.isPrefixOf s.toList then some (m.strip s)
    else none
  | _ => none

def isReference (m : Marker) (v : Value) : Bool := (m.target? v).isSome

def identifies (id : String) (v : Value) : Bool :=
  match v.get? idKey with
  | some (.text s) => s == id
  | _ => false

/-- The first record of the batch that a reference means. -/
def resolve? (m : Marker) (reference : Value) (batch : List Value) : Option Fields :=
  match m.target? reference with
  | none => none
  | some id => (batch.find? (identifies id)).map Value.fields

def refersTo (m : Marker) (v : Value) (identifier : Value) : Bool :=
  identifier.isPresent && match v with
    | .text s => s == identifier.display || s == m.text ++ identifier.display
    | _ => false

/-- The value that a record has at a name, as a reference is looked for in it. -/
def pointsAt (m : Marker) (property : String) (identifier : Value) (v : Value) : Bool :=
  v.isRecord && m.refersTo ((v.get? property).getD .none) identifier

def holdsText (property : String) (v : Value) : Bool :=
  match v.get? property with
  | some (.text _) => true
  | _ => false

/-- Whether an identifier has the text that it is compared by, if the batch has a text to compare it
with. -/
def checkPointed (property : String) (identifier : Value) (batch : List Value) :
    Except Fault Unit :=
  if identifier.isPresent && batch.any (holdsText property) then identifier.shown.map fun _ => ()
  else .ok ()

def referencing (m : Marker) (property : String) (identifier : Value) (batch : List Value) :
    List Value :=
  if identifier.isPresent then batch.filter (m.pointsAt property identifier) else []

end Marker
end Microdata
