import Microdata.Command.Basic
import Microdata.Command.Outcome
import Microdata.Config.Reader
import Microdata.Json.Writer
import Microdata.Markup.Page
import Microdata.Markup.Writer
import Microdata.Template.Render
import Microdata.Text.Line
import Microdata.Yaml.Writer
set_option autoImplicit false

namespace Microdata

structure Surroundings where
  file : FilePath → Except FileProblem String
  /-- The text of standard input, as far as it has not been read. -/
  input : String := ""

namespace Surroundings

def unified (s : String) : String := String.ofList (Text.unifyLineEnds s.toList)

/-- The text at a path, or of standard input, and what can be read after that. -/
def readText (w : Surroundings) (path : String) : Run (String × Surroundings) :=
  if path = "-" then .done (unified w.input, { w with input := "" })
  else
    let p := FilePath.ofText path
    match w.file p with
    | .ok text => .done (unified text, w)
    | .error .unusable => .raise (.file .unusable p)
    | .error .missing => .refuse ("[red]Error:[/red] File not found: " ++ path)
    | .error problem =>
      .refuse ("[red]Error:[/red] Cannot read " ++ path ++ ": " ++ problem.message p)

def readConfig (w : Surroundings) (path : Option String) : Run Config :=
  match path with
  | none => .done {}
  | some path =>
    let p := FilePath.ofText path
    let refuse (message : String) : Run Config :=
      .refuse ("[red]Config error[/red] in " ++ path ++ ": " ++ message)
    match w.file p with
    | .error .unusable => .raise (.file .unusable p)
    | .error problem => refuse (ConfigProblem.unreadable p.text (problem.message p)).message
    | .ok text =>
      match Config.ofYaml p.text (unified text) with
      | .ok config => .done config
      | .error (.fault f) => .raise (.fault f)
      | .error (.setting e) =>
        match e.problem with
        | .invalidYaml _ => refuse "invalid YAML in"
        | _ => refuse e.message

def readTemplate (w : Surroundings) (path : String) (config : Config)
    (id selector base : Option String) : Run (Template × List Pattern × Surroundings) := do
  let (text, w) ← w.readText path
  let page ← Run.orRaise .fault (Markup.parsePage text (base.getD ""))
  let usable := do
    let t ← Template.ofDocument page config selector base id
    .ok (t, ← t.roots)
  match usable with
  | .ok (t, roots) => .done (t, roots, w)
  | .error (.fault f) => .raise (.fault f)
  | .error e => .refuse ("[red]Template error[/red] in " ++ path ++ ": " ++ e.message)

end Surroundings

/-- The text of a value; with a name for labels, records with one label are written once as YAML. -/
def ValueFormat.write (format : ValueFormat) (labelName : Option String) (v : Value) :
    Except Fault String :=
  match format with
  | .json => Json.write (.indented 2) Value.room 0 v
  | .yaml => .ok (Yaml.text labelName v)

def Run.emit (text what : String) : (output : Option String) → Run Unit
  | none => .display .output (Console.folded Console.columns text)
  | some path => do
    .save (FilePath.ofText path) text
    .say .output ("[green]" ++ what ++ " written to[/green] " ++ path)

end Microdata
