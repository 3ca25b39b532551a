import Microdata.Text.Blank
import Microdata.Text.Split
import Microdata.Reference
import Microdata.Vocabulary
set_option autoImplicit false

/-!
Records read from annotated elements. Every element below the one that is read contributes its value
to each property that it names, up to the elements that open a scope: their content is a record of
its own. Main definitions: `contributions` lists names and values in document order, and `extract`
gathers them, so that a property with several values has the list of them.
-/

namespace Microdata

structure Dialect where
  vocabulary : Vocabulary := {}
  separator : String := "/"

def valueAttribute? (tag : String) : Option String :=
  match tag with
  | "meta" => some "content"
  | "img" | "audio" | "video" | "source" | "embed" | "iframe" => some "src"
  | "a" | "area" | "link" => some "href"
  | "object" => some "data"
  | "time" => some "datetime"
  | "data" | "meter" | "progress" | "input" => some "value"
  | _ => none

/-- The value of an element that opens no scope: its attribute for values, or else its text. -/
def plainValue (e : Element) : String :=
  ((valueAttribute? e.tagName).bind e.get?).getD (Text.strip e.textContent)

namespace Fields

/-- A property with one more value: one value stands alone, several stand in a list. -/
def contribute (fields : Fields) (name : String) (v : Value) : Fields :=
  match fields.get? name with
  | none => fields.put name v
  | some (.list items) => fields.put name (.list (items ++ [v]))
  | some old => fields.put name (.list [old, v])

def gather (fields : Fields) (contributions : List (String × Value)) : Fields :=
  contributions.foldl (fun fields (name, v) => fields.contribute name v) fields

end Fields

namespace Dialect

def properties (d : Dialect) (e : Element) : List String :=
  (Text.words (e.get d.vocabulary.binding)).map d.vocabulary.cleanName

def splitType (d : Dialect) (type : String) : Except Fault (String × String) :=
  if d.separator = "" then .error .emptySeparator
  else
    let (context, name) :=
      (Text.cutLastPart? d.separator.toList type.toList).getD ([], type.toList)
    .ok (String.ofList context, String.ofList name)

/-- The entries for the type and the identifier of an element. -/
def identity (d : Dialect) (e : Element) : Except Fault Fields := do
  let type ← match Text.words (e.get d.vocabulary.type) with
    | [] => pure []
    | type :: _ =>
      let (context, name) ← d.splitType type
      pure [(Key.text typeKey, Value.text name), (Key.text contextKey, Value.text context)]
  let id := e.get d.vocabulary.identifier
  .ok (type ++ if id = "" then [] else [(Key.text idKey, Value.text id)])

mutual
/-- The names and values that an element and those below it contribute, in document order. -/
def contributions (d : Dialect) : Element → Except Fault (List (String × Value))
  | .mk tag attributes text children => do
    let e := Element.mk tag attributes text children
    if tag = .comment then .ok []
    else
      let names := d.properties e
      if e.has d.vocabulary.scope then
        if names.isEmpty then .ok []
        else
          let v := Value.record ((← d.identity e).gather (← contributionsBelow d children))
          .ok (names.map fun n => (n, v))
      else
        .ok ((names.map fun n => (n, .text (plainValue e))) ++ (← contributionsBelow d children))

def contributionsBelow (d : Dialect) : List Child → Except Fault (List (String × Value))
  | [] => .ok []
  | (e, _) :: rest => do
    let first ← contributions d e
    .ok (first ++ (← contributionsBelow d rest))
end

def extract (d : Dialect) (e : Element) : Except Fault Fields := do
  .ok ((← d.identity e).gather (← d.contributionsBelow e.children))

def propertyValue (d : Dialect) (e : Element) : Except Fault Value :=
  if e.has d.vocabulary.scope then (d.extract e).map .record else .ok (.text (plainValue e))

end Dialect
end Microdata
