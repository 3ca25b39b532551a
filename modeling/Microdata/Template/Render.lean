import Microdata.Binding.Render
import Microdata.Source
import Microdata.Template.Matching
import Microdata.Template.Roots
set_option autoImplicit false

namespace Microdata

structure Template where
  element : Element
  config : Config := {}

/-- Why data cannot be rendered. -/
inductive RenderError where
  | template (e : TemplateError)
  | fault (f : Fault)
  deriving DecidableEq, Repr

inductive Output where
  | single (e : Option Element)
  | batch (es : List Element)

namespace Output

def elements : Output → List Element
  | single e => e.toList
  | batch es => es

end Output

def Value.description : Value → String
  | element e =>
    match e.tag with
    | .named name => "<" ++ (if e.tagName = "" then name else e.tagName) ++ ">"
    | .comment => "<comment>"
  | v => v.kindName

namespace Template

def ofElement (e : Element) (config : Config) : Except TemplateError Template :=
  if e.tagName = "template" then .ok ⟨e, config⟩
  else .error (.notTemplate (Value.element e).description)

/-- The first template of a page, or the one with an identifier. Without another location, that of
the page is taken. -/
def ofDocument (d : Document) (config : Config) (selector base id : Option String) :
    Except TemplateError Template :=
  match d.findTemplate? id with
  | none => .error (.missing id)
  | some e =>
    let base := if base.isNone && config.base = "" then some d.base else base
    ofElement e (config.withOverrides selector base)

def ofValue (source : Value) (config : Config) (selector base id : Option String) :
    Except TemplateError Template :=
  match source with
  | .document d => ofDocument d config selector base id
  | .element e => ofElement e (config.withOverrides selector base)
  | v => .error (.notTemplate v.description)

def literal (t : Template) : String :=
  "Template(selector=" ++
    (match t.config.selector with
      | some s => Text.quoted s
      | none => "None") ++
    ", base_url=" ++ Text.quoted t.config.base ++ ")"

def dialect (t : Template) : Dialect := ⟨t.config.vocabulary, t.config.separator⟩

def roots (t : Template) : Except TemplateError (List Pattern) := do
  let es ← rootElements t.element t.config.selector t.config.vocabulary
  .ok (es.map (Pattern.analyze t.config.vocabulary))

def unmatched (t : Template) (record : Value) : Diagnostic where
  code := "BIND001"
  message := "No template root matches record of type " ++
    (match qualifiedType? t.config.separator record with
      | some type => Text.quoted type
      | none => "None")
  suggestion := some ("Add a root with a matching " ++ t.config.vocabulary.type ++
    " or an untyped root")
  rule := "match"

def renderRecord (t : Template) (record : Value) (batch : List Value) (base : String) :
    Except RenderError (List Element × List Diagnostic) :=
  match t.roots with
  | .error e => .error (.template e)
  | .ok roots => do
    (checkType record).mapError RenderError.fault
    match Pattern.rootFor? t.config.separator record roots with
    | none => .ok ([], [(t.unmatched record).promote t.config.strict])
    | some root => do
      record.checkIdentifier.mapError RenderError.fault
      let ctx := Context.ofRoot record batch base
      ((Renderer.mk t.config .standard).render root record ctx).run.mapError RenderError.fault

def renderRecords (t : Template) (batch : List Value) (base : String) :
    List Value → Except RenderError (List Element × List Diagnostic)
  | [] => .ok ([], [])
  | record :: rest => do
    let first ← t.renderRecord record batch base
    let others ← t.renderRecords batch base rest
    .ok (first.1 ++ others.1, first.2 ++ others.2)

/-- A record, or an empty one in place of anything else. -/
def asRecord (v : Value) : Value := if v.isRecord then v else .record []

def render (t : Template) (data : Value) : Except RenderError (Output × List Diagnostic) := do
  let records ← (t.dialect.normalize data).mapError RenderError.fault
  let base := if data.origin = "" then t.config.base else data.origin
  match records with
  | .list items => do
    let batch := items.map asRecord
    let result ← t.renderRecords batch base batch
    .ok (.batch result.1, result.2)
  | record => do
    let result ← t.renderRecord record [record] base
    .ok (.single result.1.head?, result.2)

end Template
end Microdata
