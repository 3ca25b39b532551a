import Microdata.Binding.Setter
import Microdata.Text.Quoted
set_option autoImplicit false

namespace Microdata

/-- What somebody wants to register: a setter, or something else, shown as it is written. -/
inductive Candidate where
  | setter (s : Setter)
  | other (literal : String)
  deriving DecidableEq, Repr

inductive RegistryError where
  | taken (tag : String)
  | missing (tag : String)
  | notSetter (literal tag : String)
  deriving DecidableEq, Repr

def RegistryError.message : RegistryError → String
  | taken tag =>
    "A value setter is already registered for tag " ++ Text.quoted tag ++
      ". Deregister the existing setter first."
  | missing tag => "No value setter is registered for tag " ++ Text.quoted tag ++ "."
  | notSetter literal tag =>
    "Cannot register " ++ literal ++ " for " ++ Text.quoted tag ++
      ": it must be a subclass of ValueSetter."

structure Registry where
  fallback : Setter
  entries : List (String × Setter) := []

namespace Registry

/-- The setter of a tag in lower case. -/
def find? (r : Registry) (tag : String) : Option Setter :=
  (r.entries.find? fun p => p.1 == tag).map (·.2)

def contains (r : Registry) (tag : String) : Bool := (r.find? (Text.lower tag)).isSome

def get (r : Registry) (tag : String) : Except RegistryError Setter :=
  match r.find? (Text.lower tag) with
  | some s => .ok s
  | none => .error (.missing tag)

def register (r : Registry) (tag : String) (c : Candidate) : Except RegistryError Registry :=
  let tag := Text.lower tag
  if (r.find? tag).isSome then .error (.taken tag)
  else match c with
    | .setter s => .ok { r with entries := r.entries ++ [(tag, s)] }
    | .other literal => .error (.notSetter literal tag)

/-- The registry with an entry for each tag up to the first that cannot have it. -/
def registerAll (r : Registry) (c : Candidate) : List String → Registry × Option RegistryError
  | [] => (r, none)
  | tag :: rest =>
    match r.register tag c with
    | .ok r => r.registerAll c rest
    | .error e => (r, some e)

def deregister (r : Registry) (tag : String) : Except RegistryError Registry :=
  let tag := Text.lower tag
  if (r.find? tag).isSome then
    .ok { r with entries := r.entries.filter fun p => p.1 != tag }
  else .error (.missing tag)

/-- The registry with the entries that others offer, as far as their tags are free and what they
offer can be had and is a setter. -/
def load (r : Registry) (offers : List (String × Option Candidate)) : Registry :=
  offers.foldl (fun r (tag, c) =>
    match c with
    | some c =>
      match r.register tag c with
      | .ok r => r
      | .error _ => r
    | none => r) r

def tags (r : Registry) : List String := (r.entries.map (·.1)).mergeSort fun a b => a ≤ b

def setterFor (r : Registry) (e : Element) : Setter := (r.find? e.tagName).getD r.fallback

def write (r : Registry) (e : Element) (v : Value) : Except Fault Element :=
  (r.setterFor e).write e v

def literal (r : Registry) : String :=
  "ValueSetterRegistry(default=" ++ r.fallback.name ++ ", tags=[" ++
    ", ".intercalate (r.tags.map Text.quoted) ++ "])"

def standard : Registry where
  fallback := .textContent
  entries := [("input", .input), ("textarea", .formText), ("output", .formText),
    ("select", .select), ("option", .option), ("meta", .content), ("img", .source),
    ("audio", .source), ("video", .source), ("source", .source), ("embed", .source),
    ("iframe", .source), ("link", .href), ("object", .data), ("time", .dateTime),
    ("data", .valueAttribute), ("meter", .valueAttribute), ("progress", .valueAttribute)]

end Registry
end Microdata
