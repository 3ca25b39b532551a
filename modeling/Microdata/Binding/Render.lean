import Microdata.Binding.Context
import Microdata.Binding.Placeholder
import Microdata.Binding.Registry
import Microdata.Config
import Microdata.Expression.Evaluation
import Microdata.Location.Basic
import Microdata.Reported
import Microdata.Template.Pattern
set_option autoImplicit false

/-!
Rendering: a pattern and a record give elements. Every element of the output begins as a copy of the
element of its pattern without children; the rendered children follow. At each pattern, in order: a
filter repeats it for every record of the batch that refers to the record at hand; a constraint that
fails leaves it out, and one that asks for a record enters that record; a property that stands for a
list repeats it for every item; its placeholders are filled; and its property is written on it or,
if it opens a scope, entered.
-/

namespace Microdata

namespace Diagnostic

def notList (v : Value) (property suffix path : String) : Diagnostic where
  code := "BIND002"
  message := "Property " ++ Text.quoted property ++ " is bound as an array but holds " ++ v.kindName
  path := path
  suggestion := some ("Provide a list for " ++ Text.quoted property ++ " or drop the " ++
    Text.quoted suffix ++ " marker")
  rule := "array"

def notRecord (v : Value) (property scope path : String) : Diagnostic where
  code := "BIND003"
  message := "Property " ++ Text.quoted property ++ " opens a scope but holds " ++ v.kindName
  path := path
  suggestion := some ("Provide a record for " ++ Text.quoted property ++ " or remove " ++
    Text.quoted scope)
  rule := "scope"

def tooDeep (limit : Nat) (path : String) : Diagnostic where
  code := "BIND006"
  message := "Nesting depth exceeds the limit of " ++ toString limit
  path := path
  suggestion := some "Raise max_depth or flatten the data"
  rule := "depth"

def cyclic (record : Value) (path : String) : Diagnostic where
  code := "BIND007"
  message := "Record " ++ ((record.get? idKey).getD .none).literal ++ " is already being rendered"
  path := path
  rule := "cycle"

end Diagnostic

structure Renderer where
  config : Config := {}
  setters : Registry := .standard

namespace Renderer

def report (r : Renderer) (d : Diagnostic) : Reported Unit :=
  Reported.note (d.promote r.config.strict)

/-- The context inside a record, unless the record is being rendered already or too many have been
entered. -/
def allow (r : Renderer) (s : Shape) (ctx : Context) (record : Value) (linked : Bool) :
    Reported (Option Context) :=
  if linked && ctx.isCycle record then do
    r.report (.cyclic record s.path)
    .ok none
  else if r.config.maxDepth ≤ ctx.depth then do
    r.report (.tooDeep r.config.maxDepth s.path)
    .ok none
  else .ok (some (ctx.descend record linked))

/-- The same, for a link only if the identifier of the record has the text that it is known by. -/
def enter (r : Renderer) (s : Shape) (ctx : Context) (record : Value) (linked : Bool) :
    Reported (Option Context) := do
  Reported.lift (if linked then record.checkIdentifier else .ok ())
  r.allow s ctx record linked

def fillAttributes (record : Value) (e : Element) :
    List (String × String) → Except Fault Element
  | [] => .ok e
  | (name, template) :: rest => do
    let v ← Placeholder.substitute record template
    fillAttributes record (e.set name v) rest

/-- A copy of the element of a pattern without its children: the mark of a list is taken from its
property, and its placeholders are filled. -/
def start (r : Renderer) (s : Shape) (record : Value) : Reported Element :=
  let e := s.element.shell
  let e := match s.isArray, s.property with
    | true, some p => e.set r.config.vocabulary.binding p
    | _, _ => e
  Reported.lift (fillAttributes record e s.placeholders)

def withOwnChildren (s : Shape) (e : Element) : Element :=
  .mk e.tag e.attributes e.text (e.children ++ s.element.children)

def write (r : Renderer) (e : Element) (v : Value) : Reported Element :=
  Reported.lift (r.setters.write e v)

/-- An element that opens a scope, with the location of its record if that has an identifier. -/
def markIdentity (r : Renderer) (s : Shape) (ctx : Context) (record : Value) (e : Element) :
    Reported Element :=
  match s.isScope, record.identifier? with
  | true, some id => do
    let base ← Reported.lift (Location.withoutFragment ctx.base)
    let name ← Reported.lift id.shown
    .ok (e.set r.config.vocabulary.itemId (base ++ "#" ++ name))
  | _, _ => .ok e

theorem eq_or_located_of_markIdentity {r : Renderer} {s : Shape} {ctx : Context} {record : Value}
    {e e' : Element} {ds : List Diagnostic}
    (h : (r.markIdentity s ctx record e).run = .ok (e', ds)) :
    e' = e ∨ s.isScope = true ∧ ∃ location, e' = e.set r.config.vocabulary.itemId location := by
  unfold markIdentity at h
  split at h
  · rename_i hscope _
    obtain ⟨base, -, h⟩ := Reported.run_lift_bind_eq_ok.mp h
    obtain ⟨name, -, h⟩ := Reported.run_lift_bind_eq_ok.mp h
    obtain ⟨rfl, -⟩ := Reported.run_ok_eq_ok.mp h
    exact .inr ⟨hscope, _, rfl⟩
  · exact .inl (Reported.run_ok_eq_ok.mp h).1.symm

/-- Elements put behind the content of another, and the text behind the last of them. -/
def appendAll (e : Element) (tail : String) : List Element → Element
  | [] => e.appendText tail
  | [last] => e.append (last, tail)
  | first :: rest => appendAll (e.append (first, "")) tail rest

def judge (r : Renderer) (s : Shape) (record : Value) (batch : List Value) : Reported Verdict :=
  match s.constraint with
  | some source =>
    .ofRun (evaluate r.config.marker source record batch s.path r.config.strict)
  | none => .ok (.ofBool true)

/-- The value of a property of the record at hand; `none` if it has no such value. -/
def valueOf (record : Value) (property : String) : Value := (record.get? property).getD .none

def writePlain (r : Renderer) (e : Element) (v : Value) : Reported Element :=
  match v with
  | .none | .record _ => .ok e
  | v => r.write e v

/-- How the children of a pattern are rendered: the context that they see, and the element that
they are put on. -/
abbrev Below := Context → Element → Reported Element

section

variable (r : Renderer) (s : Shape) (isLeaf : Bool) (below : Below) (ctx : Context)

def renderMatch (record : Value) : Reported (Option Element) := do
  let verdict ← r.judge s record ctx.batch
  if verdict.passed then
    let record := (verdict.resolved.map Value.record).getD record
    match ← r.enter s ctx record true with
    | none => .ok none
    | some inner => do
      let e ← r.start s record
      let e ← below inner e
      let e ← match isLeaf, s.property with
        | true, some p => r.writePlain e (valueOf record p)
        | _, _ => .ok e
      let e ← r.markIdentity s ctx record e
      .ok (some e)
  else .ok none

/-- The element for an item of a list. A record is entered only if there are children for it. -/
def renderItem (item : Value) : Reported (Option Element) :=
  if item.isRecord && !isLeaf then do
    match ← r.enter s ctx item false with
    | none => .ok none
    | some inner => do
      let e ← r.start s item
      let e ← below inner e
      let e ← r.markIdentity s ctx item e
      .ok (some e)
  else do
    let e ← r.start s (if item.isRecord then item else ctx.current)
    let e ← match item with
      | .none => .ok (withOwnChildren s e)
      | item => r.write (withOwnChildren s e) item
    let e ← r.markIdentity s ctx item e
    .ok (some e)

/-- The elements for a property that stands for a list. -/
def renderList (property : String) : Reported (List Element) :=
  match valueOf ctx.current property with
  | .none => do
    let e ← r.start s ctx.current
    .ok [withOwnChildren s e]
  | .list items | .tuple items => Reported.filterMap (r.renderItem s isLeaf below ctx) items
  | v => do
    r.report (.notList v property r.config.vocabulary.arraySuffix s.path)
    .ok []

/-- The content of an element that opens a scope: of the record that its property holds or, if it is
a link, that it means. -/
def renderNested (property : String) (v : Value) (linked : Bool) (nested : Value) (e : Element) :
    Reported Element :=
  match linked, nested with
  | true, .none => do
    r.report (.dangling v property s.path "scope")
    .ok (withOwnChildren s e)
  | linked, .record fields => do
    match ← r.enter s ctx (.record fields) linked with
    | none => .ok (withOwnChildren s e)
    | some inner => do
      let e ← below inner e
      r.markIdentity s ctx (.record fields) e
  | _, _ => do
    r.report (.notRecord v property r.config.vocabulary.scope s.path)
    .ok (withOwnChildren s e)

def renderScope (property : String) (e : Element) : Reported Element :=
  match valueOf ctx.current property with
  | .none => .ok (withOwnChildren s e)
  | v =>
    if r.config.marker.isReference v then
      let nested := ((r.config.marker.resolve? v ctx.batch).map Value.record).getD .none
      r.renderNested s below ctx property v true nested e
    else r.renderNested s below ctx property v false v e

def renderSingle : Reported Element := do
  let e ← r.start s ctx.current
  match s.property with
  | none => do
    let e ← below ctx e
    r.markIdentity s ctx ctx.current e
  | some property =>
    if s.isScope then r.renderScope s below ctx property e
    else r.writePlain (withOwnChildren s e) (valueOf ctx.current property)

def renderBound : Reported (List Element) :=
  match s.isArray, s.property with
  | true, some property => r.renderList s isLeaf below ctx property
  | _, _ => do
    let e ← r.renderSingle s below ctx
    .ok [e]

/-- The elements of a pattern, as its filter and its constraint decide. -/
def renderShape : Reported (List Element) :=
  match s.filter with
  | some property => do
    Reported.lift (Marker.checkPointed property (valueOf ctx.current idKey) ctx.batch)
    Reported.filterMap (r.renderMatch s isLeaf below ctx)
      (ctx.batch.filter (r.config.marker.pointsAt property (valueOf ctx.current idKey)))
  | none => do
    let verdict ← r.judge s ctx.current ctx.batch
    if verdict.passed then
      match verdict.resolved with
      | none => r.renderBound s isLeaf below ctx
      | some fields => do
        match ← r.enter s ctx (.record fields) true with
        | none => .ok []
        | some inner => r.renderBound s isLeaf below inner
    else .ok []

end

mutual
def renderAt (r : Renderer) (ctx : Context) : Pattern → Reported (List Element)
  | .mk s children =>
    r.renderShape s children.isEmpty (fun inner e => renderBelow r inner e children) ctx

def renderBelow (r : Renderer) (ctx : Context) (e : Element) :
    List (Pattern × String) → Reported Element
  | [] => .ok e
  | (p, tail) :: rest => do
    let es ← renderAt r ctx p
    renderBelow r ctx (appendAll e tail es) rest
end

def render (r : Renderer) (p : Pattern) (record : Value) (ctx : Context) :
    Reported (List Element) :=
  renderAt r { ctx with current := record } p

end Renderer
end Microdata
