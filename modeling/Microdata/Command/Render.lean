import Microdata.Command.Basic
import Microdata.Command.Surroundings
import Microdata.Console.Table
import Microdata.Json.Reader
set_option autoImplicit false

namespace Microdata

namespace DataFormat

/-- What a text seems to hold: one that begins with a bracket JSON, one that begins with a tag a
page, and a single line with an equals sign a query. -/
def ofText (text : String) : DataFormat :=
  let cs := text.toList.dropWhile Text.isBlank
  let line := Text.trim Text.isBlank cs
  match cs with
  | '\x7b' :: _ | '[' :: _ => .json
  | '<' :: _ => .html
  | _ =>
    if cs.contains '=' && !line.contains '\n' && !Text.includes [':', ' '] cs then .query else .yaml

/-- What a file seems to hold: its name decides if it ends in a known way, else its text. -/
def detect (path text : String) : DataFormat :=
  match (FilePath.ofText path).extension with
  | ".json" => .json
  | ".yaml" | ".yml" => .yaml
  | ".html" | ".htm" => .html
  | _ => ofText text

end DataFormat

def Run.data (request : RenderRequest) (text : String) : Run Value :=
  let refuse : Run Value := .refuse ("[red]Data error[/red] in " ++ request.data)
  let format := match request.format with
    | .detected => DataFormat.detect request.data text
    | format => format
  let known : Except ReadError Value → Run Value
    | .ok v => .done v
    | .error .malformed => refuse
    | .error (.fault f) => .raise (.fault f)
  match format with
  | .json => known (Json.read text)
  | .yaml => known (Yaml.read text)
  | .html => do .done (.document (← Run.orRaise .fault (Markup.parsePage text request.origin)))
  | _ => .done (.ofQuery (Text.strip text))

namespace Diagnostic

def cells (d : Diagnostic) : List String :=
  let hint := match d.suggestion with
    | some s => if s = "" then "" else "\nhint: " ++ Styled.literal s
    | none => ""
  [d.severity.label, d.code, Styled.literal (if d.path = "" then "-" else d.path),
    Styled.literal d.message ++ hint]

def table (title : String) (ds : List Diagnostic) : Console.Table where
  title := title
  columns := [⟨"Severity", 12⟩, ⟨"Code", 10⟩, ⟨"Location", 12⟩, ⟨"Message", 0⟩]
  rows := ds.map cells

def summary (ds : List Diagnostic) : String :=
  let errors := (ds.filter isError).length
  "Summary: " ++ toString errors ++ " error(s), " ++ toString (ds.length - errors) ++
    " other finding(s)"

end Diagnostic

/-- Diagnostics shown, if there are any; errors among them break the run off. -/
def Run.report (title : String) (ds : List Diagnostic) : Run Unit :=
  if ds.isEmpty then .done ()
  else do
    let title ← Run.orRaise .style (Styled.shown title)
    .display .error ((Diagnostic.table title ds).lines ++ ["", Diagnostic.summary ds])
    if ds.any Diagnostic.isError then .exit 1 else .done ()

namespace RenderRequest

def load (request : RenderRequest) (w : Surroundings) : Run (Template × Value) := do
  let config ← w.readConfig request.config
  let config := { config with strict := config.strict || request.strict }
  let (template, _, w) ← w.readTemplate request.template config request.id request.selector
    request.base
  let (text, _) ← w.readText request.data
  let data ← Run.data request text
  .done (template, data)

def notice (count : Nat) (path : String) : String :=
  "[green]Rendered[/green] " ++ toString count ++ " element(s) to " ++ path

/-- The output shown, or saved with a notice of it. -/
def handOver (request : RenderRequest) (output : Output) : Run Unit := do
  let texts ← Run.orRaise .fault (output.elements.mapM Element.html)
  let html := "\n".intercalate texts
  match request.output with
  | none => Run.display .output (Console.lines (Styled.pictured html))
  | some path =>
    Run.save (FilePath.ofText path) (html ++ "\n")
    Run.say .output (notice texts.length path)

def title (request : RenderRequest) : String := "Render: " ++ request.template

def deliver (request : RenderRequest) (t : Template) (data : Value) : Run Unit := do
  let (output, ds) ← Run.orRaise RenderError.exception (t.render data)
  request.handOver output
  Run.report request.title ds

def run (request : RenderRequest) (w : Surroundings) : Run Unit := do
  let (t, data) ← request.load w
  request.deliver t data

end RenderRequest
end Microdata
