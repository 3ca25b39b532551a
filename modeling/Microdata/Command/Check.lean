import Microdata.Command.Basic
import Microdata.Command.Surroundings
import Microdata.Expression.Evaluation
import Microdata.Expression.Grammar
import Microdata.Expression.Outline
import Microdata.Json.Reader
set_option autoImplicit false

namespace Microdata

/-- An expression read out of a text; errors are shown and break the run off. -/
def Run.expression (source : String) : Run Expr :=
  match parseExpression source with
  | .ok e => .done e
  | .error (.lexical e) => .refuse ("[red]Lex error:[/red] " ++ e.message)
  | .error (.parsing .tooDeep) => .raise (.fault .tooDeep)
  | .error (.parsing (.errors es)) => do
    .display .error ("Parse errors:" :: es.flatMap fun e =>
      Console.folded Console.columns (Styled.pictured ("  " ++ e.text)))
    .exit 1

def Run.showExpression (e : Expr) : (format : Option ValueFormat) → Run Unit
  | none => .display .output (Console.folded Console.columns ("OK " ++ Styled.literal e.source))
  | some format => do
    let v ← Run.orRaise .fault (e.outline Expr.depthLimit)
    let text ← Run.orRaise .fault (format.write none v)
    .display .output (Console.folded Console.columns text)

def Run.verdict (source record : String) : Run Unit :=
  match Json.read record with
  | .error .malformed => .refuse "[red]Invalid --record JSON"
  | .error (.fault f) => .raise (.fault f)
  | .ok (.record fields) => do
    let (v, _) ← Run.orRaise .fault (evaluate .standard source (.record fields) [] "")
    .say .output ("Result: " ++ if v.passed then "true" else "false")
  | .ok _ => .refuse "[red]Invalid --record JSON:[/red] expected an object"

def CheckRequest.run (request : CheckRequest) : Run Unit :=
  if request.grammar then .display .output grammarLines
  else
    match request.expression with
    | none => .refuse "[red]Error:[/red] Missing EXPRESSION (or pass --grammar)" 2
    | some source => do
      let e ← Run.expression source
      Run.showExpression e request.format
      match request.record with
      | none => .done ()
      | some record => Run.verdict source record

end Microdata
