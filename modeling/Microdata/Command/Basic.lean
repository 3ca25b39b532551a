import Microdata.Command.Arguments
set_option autoImplicit false

namespace Microdata

inductive DataFormat where
  | detected
  | json | yaml | html | query
  deriving DecidableEq, Repr

inductive ValueFormat where
  | json | yaml
  deriving DecidableEq, Repr

/-- A template and data to be rendered. A file is given by its path, and standard input by a dash.
-/
structure RenderRequest where
  template : String
  data : String
  id : Option String
  selector : Option String
  base : Option String
  origin : String
  config : Option String
  strict : Bool
  format : DataFormat
  output : Option String

structure AnalyzeRequest where
  template : String
  id : Option String
  selector : Option String
  format : ValueFormat
  output : Option String

structure ExtractRequest where
  page : String
  base : String
  form : Option String
  format : ValueFormat
  output : Option String

structure CheckRequest where
  expression : Option String
  record : Option String
  grammar : Bool
  /-- How the expression is shown; as an expression if nothing is given. -/
  format : Option ValueFormat

inductive Command where
  | help (topic : Option String)
  | version
  | setters
  | render (request : RenderRequest)
  | analyze (request : AnalyzeRequest)
  | extract (request : ExtractRequest)
  | check (request : CheckRequest)

namespace Command

def helpRule : OptionRule := ⟨"help", none, .flag⟩

def outputRule : OptionRule := ⟨"output", some 'o', .text⟩

def generalRules : List OptionRule :=
  [helpRule, ⟨"version", none, .flag⟩, ⟨"verbose", some 'v', .flag⟩]

def versionSignature : Signature := { options := [helpRule] }

def settersSignature : Signature :=
  { options := [helpRule, ⟨"load-entrypoints", none, .flag⟩] }

def renderSignature : Signature where
  options := [helpRule, ⟨"template-id", none, .text⟩, ⟨"selector", none, .text⟩,
    ⟨"base-url", none, .text⟩, ⟨"source-url", none, .text⟩, ⟨"config", none, .text⟩,
    ⟨"strict", none, .flag⟩,
    ⟨"data-format", none, .choice ["auto", "json", "yaml", "html", "query"]⟩, outputRule]
  least := 2

def analyzeSignature : Signature where
  options := [helpRule, ⟨"template-id", none, .text⟩, ⟨"selector", none, .text⟩,
    ⟨"format", none, .choice ["json", "yaml"]⟩, outputRule]
  least := 1

def extractSignature : Signature where
  options := [helpRule, ⟨"base-url", none, .text⟩, ⟨"form", none, .text⟩,
    ⟨"format", none, .choice ["json", "yaml"]⟩, outputRule]
  least := 1

def checkSignature : Signature where
  options := [helpRule, ⟨"record", none, .text⟩, ⟨"grammar", none, .flag⟩,
    ⟨"format", none, .choice ["source", "json", "yaml"]⟩]
  most := 1

def dataFormat : Option String → DataFormat
  | some "json" => .json
  | some "yaml" => .yaml
  | some "html" => .html
  | some "query" => .query
  | _ => .detected

def valueFormat? : Option String → Option ValueFormat
  | some "json" => some .json
  | some "yaml" => some .yaml
  | _ => none

def outputOf (g : Given) : Option String := (g.get? "output").filter (· != "")

def ofRender (g : Given) : Command :=
  .render {
    template := g.arguments[0]?.getD ""
    data := g.arguments[1]?.getD ""
    id := g.get? "template-id"
    selector := g.get? "selector"
    base := g.get? "base-url"
    origin := (g.get? "source-url").getD ""
    config := g.get? "config"
    strict := g.has "strict"
    format := dataFormat (g.get? "data-format")
    output := outputOf g }

def ofAnalyze (g : Given) : Command :=
  .analyze {
    template := g.arguments[0]?.getD ""
    id := g.get? "template-id"
    selector := g.get? "selector"
    format := (valueFormat? (g.get? "format")).getD .json
    output := outputOf g }

def ofExtract (g : Given) : Command :=
  .extract {
    page := g.arguments[0]?.getD ""
    base := (g.get? "base-url").getD ""
    form := g.get? "form"
    format := (valueFormat? (g.get? "format")).getD .json
    output := outputOf g }

def ofCheck (g : Given) : Command :=
  .check {
    expression := g.arguments[0]?
    record := g.get? "record"
    grammar := g.has "grammar"
    format := valueFormat? (g.get? "format") }

def named? (name : String) : Option (Signature × (Given → Command)) :=
  match name with
  | "version" => some (versionSignature, fun _ => .version)
  | "setters" => some (settersSignature, fun _ => .setters)
  | "render" => some (renderSignature, ofRender)
  | "analyze" => some (analyzeSignature, ofAnalyze)
  | "extract" => some (extractSignature, ofExtract)
  | "check" => some (checkSignature, ofCheck)
  | _ => none

/-- The command that command line arguments give, if they give one. A question for help is answered
whatever else is there, as long as all options can be read. -/
def ofArguments? (arguments : List String) : Option Command := do
  let general ← readArguments generalRules true {} arguments
  if general.has "help" && !arguments.isEmpty then some (.help none)
  else if general.has "version" then some .version
  else match general.arguments with
    | [] => none
    | name :: rest =>
      let (signature, build) ← named? name
      let given ← readArguments signature.options false {} rest
      if given.has "help" then some (.help (some name))
      else (signature.read? rest).map build

end Command
end Microdata
