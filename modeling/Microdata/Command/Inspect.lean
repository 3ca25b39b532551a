import Microdata.Command.Basic
import Microdata.Command.Surroundings
import Microdata.Console.Table
import Microdata.Extraction.Label
set_option autoImplicit false

namespace Microdata

def AnalyzeRequest.run (request : AnalyzeRequest) (w : Surroundings) : Run Unit := do
  let (_, roots, _) ← w.readTemplate request.template {} request.id request.selector none
  let text ← Run.orRaise .fault (request.format.write none (.list (roots.map Pattern.outline)))
  Run.emit text "Structure" request.output

def Document.form? (d : Document) (id : String) : Option Element :=
  d.root.descendants.find? fun e => e.isTagged "form" && e.get? "id" == some id

/-- The text of the records of a page. Two properties that one element is bound to share its
record, which YAML can tell. -/
def Document.records (d : Document) (format : ValueFormat) : Except Fault String :=
  let dialect : Dialect := {}
  match format with
  | .json => do format.write none (← dialect.normalize (.document d))
  | .yaml => do
    let name := dialect.freshName d.root
    let root := (dialect.labelled name 0 d.root).1
    format.write (some name) (← dialect.normalize (.document { d with root := root }))

def ExtractRequest.run (request : ExtractRequest) (w : Surroundings) : Run Unit := do
  let (text, _) ← w.readText request.page
  let page ← Run.orRaise .fault (Markup.parsePage text request.base)
  match request.form with
  | none =>
    let text ← Run.orRaise .fault (page.records request.format)
    Run.emit text "Records" request.output
  | some id =>
    match page.form? id with
    | none =>
      Run.refuse ("[red]Error:[/red] No <form id=" ++ Text.quoted id ++ "> in " ++ request.page)
    | some form =>
      let v ← Run.orRaise .fault (({} : Dialect).normalize (.element form))
      let text ← Run.orRaise .fault (request.format.write none v)
      Run.emit text "Records" request.output

def Registry.table (r : Registry) : Console.Table where
  title := "Value setters"
  columns := [⟨"Tag", 0⟩, ⟨"Setter", 0⟩]
  rows := r.tags.map fun tag => [tag, ((r.find? tag).getD r.fallback).name]

def Registry.run (r : Registry) : Run Unit :=
  Run.display .output (r.table.lines ++ ["Any other tag: text content"])

end Microdata
