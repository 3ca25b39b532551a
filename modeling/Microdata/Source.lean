import Microdata.Extraction
import Microdata.Form.Controls
import Microdata.Form.Folding
import Microdata.Form.Query
set_option autoImplicit false

/-!
Sources of records. `Dialect.normalize` makes a record, or a list of records, of whatever describes
them: records with other keys, lists, elements, pages and forms, in any nesting. The result holds
records with texts as keys, lists, and scalars.
-/

namespace Microdata

namespace Value

def ofQuery (query : String) : Value :=
  form ((Query.pairs query).map fun (n, v) => (n, text v))

def origin : Value → String
  | document d => d.base
  | _ => ""

end Value

namespace Dialect

def extractAll (d : Dialect) (es : List Element) : Except Fault Value := do
  .ok (.list ((← es.mapM d.extract).map .record))

def recordOfPairs (pairs : List (String × String)) : Except Fault Value :=
  foldPairs (pairs.map fun (n, v) => (n, .text v))

/-- The records that an element describes: a form its controls, a list its scoped items, a property
its value under its names, and any other element the properties below it. -/
def ofElement (d : Dialect) (e : Element) : Except Fault Value :=
  match e.tagName with
  | "form" => recordOfPairs (Form.pairs e)
  | "ul" | "ol" =>
    d.extractAll ((e.children.map (·.1)).filter fun item =>
      item.tagName == "li" && item.has d.vocabulary.scope)
  | _ =>
    let names := d.properties e
    if names.isEmpty || e.has d.vocabulary.scope then (d.extract e).map .record
    else .ok (.record (names.foldl (fun fields n => Fields.put n (.text (plainValue e)) fields) []))

mutual
/-- A value inside a source: whatever describes records becomes them, scalars stay. -/
def normalizeInner (d : Dialect) : Value → Except Fault Value
  | .document page => d.extractAll (page.items d.vocabulary.binding d.vocabulary.scope)
  | .form pairs => foldPairs pairs
  | .element e => d.ofElement e
  | .record fields => (normalizeFields d [] fields).map .record
  | .list items => (normalizeItems d items).map .list
  | .tuple items => (normalizeItems d items).map .list
  | v => .ok v

def normalizeItems (d : Dialect) : List Value → Except Fault (List Value)
  | [] => .ok []
  | v :: rest => do
    let first ← normalizeInner d v
    .ok (first :: (← normalizeItems d rest))

/-- The entries under the texts of their keys; `done` holds those before. -/
def normalizeFields (d : Dialect) (done : Fields) : List (Key × Value) → Except Fault Fields
  | [] => .ok done
  | (k, v) :: rest => do
    let name ← k.shown
    let v ← normalizeInner d v
    normalizeFields d (Fields.put name v done) rest
end

theorem normalizeItems_eq_ok {d : Dialect} {items : List Value} {normal : Value → Value}
    (h : ∀ v ∈ items, d.normalizeInner v = .ok (normal v)) :
    d.normalizeItems items = .ok (items.map normal) := by
  induction items with
  | nil => rw [normalizeItems, List.map_nil]
  | cons v rest ih =>
    have hv := h v (List.mem_cons_self ..)
    have hrest := ih fun w hw => h w (List.mem_cons_of_mem v hw)
    rw [normalizeItems, hv, hrest]
    rfl

/-- The record or the records that a source describes; a scalar describes an empty record. -/
def normalize (d : Dialect) (source : Value) : Except Fault Value :=
  match source with
  | .none | .bool _ | .int _ | .float _ | .text _ | .date _ | .bytes _ | .set _ => .ok (.record [])
  | source => d.normalizeInner source

end Dialect
end Microdata
