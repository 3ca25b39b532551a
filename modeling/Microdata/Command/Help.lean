set_option autoImplicit false

namespace Microdata.Command

def generalHelp : List String :=
  ["Usage: itembind [OPTIONS] COMMAND [ARGS]...",
    "",
    "  Declarative binding of records onto annotated HTML templates.",
    "",
    "Options:",
    "  --version      Show the version and exit.",
    "  -v, --verbose  Log debug output to stderr",
    "  --help         Show this message and exit.",
    "",
    "Commands:",
    "  analyze  Dump the structural tree of each template root.",
    "  check    Parse a constraint expression and print its canonical form.",
    "  extract  Extract records from an HTML page.",
    "  render   Render data through an HTML template.",
    "  setters  List the leaf-value setter registered for each tag.",
    "  version  Show detailed version information."]

def versionHelp : List String :=
  ["Usage: itembind version [OPTIONS]",
    "",
    "  Show detailed version information.",
    "",
    "Options:",
    "  --help  Show this message and exit."]

def settersHelp : List String :=
  ["Usage: itembind setters [OPTIONS]",
    "",
    "  List the leaf-value setter registered for each tag.",
    "",
    "Options:",
    "  --load-entrypoints  Also load setters from installed packages",
    "  --help              Show this message and exit."]

def renderHelp : List String :=
  ["Usage: itembind render [OPTIONS] TEMPLATE_FILE DATA_FILE",
    "",
    "  Render data through an HTML template.",
    "",
    "  TEMPLATE_FILE is an HTML file containing a <template> element. DATA_FILE",
    "  holds the records (JSON, YAML, HTML microdata or a query string); use - to",
    "  read from stdin.",
    "",
    "Options:",
    "  --template-id TEXT              id of the <template> element to use",
    "  --selector TEXT                 ElementTree path selecting the template",
    "                                  roots",
    "  --base-url TEXT                 Base location used for itemid values",
    "  --source-url TEXT               Location HTML data was loaded from",
    "  --config TEXT                   YAML engine configuration file",
    "  --strict                        Treat warnings as errors",
    "  --data-format [auto|json|yaml|html|query]",
    "                                  Format of DATA_FILE (default: detect)",
    "  -o, --output TEXT               Output file path (defaults to stdout)",
    "  --help                          Show this message and exit."]

def analyzeHelp : List String :=
  ["Usage: itembind analyze [OPTIONS] TEMPLATE_FILE",
    "",
    "  Dump the structural tree of each template root.",
    "",
    "  TEMPLATE_FILE is an HTML file containing a <template> element.",
    "",
    "Options:",
    "  --template-id TEXT    id of the <template> element to use",
    "  --selector TEXT       ElementTree path selecting the template roots",
    "  --format [json|yaml]  Output format",
    "  -o, --output TEXT     Output file path (defaults to stdout)",
    "  --help                Show this message and exit."]

def extractHelp : List String :=
  ["Usage: itembind extract [OPTIONS] FILE",
    "",
    "  Extract records from an HTML page.",
    "",
    "  FILE is an HTML file carrying microdata annotations (or a form, with",
    "  --form).",
    "",
    "Options:",
    "  --base-url TEXT       Location the page was loaded from",
    "  --form TEXT           Extract the <form> with this id instead of microdata",
    "  --format [json|yaml]  Output format",
    "  -o, --output TEXT     Output file path (defaults to stdout)",
    "  --help                Show this message and exit."]

def checkHelp : List String :=
  ["Usage: itembind check [OPTIONS] [EXPRESSION]",
    "",
    "  Parse a constraint expression and print its canonical form.",
    "",
    "  With --record, the expression is also evaluated against the record.",
    "",
    "Options:",
    "  --record TEXT                JSON record to evaluate the expression against",
    "  --grammar                    Print the expression grammar",
    "  --format [source|json|yaml]  How to print the parsed expression",
    "  --help                       Show this message and exit."]

def helpLines : (topic : Option String) → List String
  | some "version" => versionHelp
  | some "setters" => settersHelp
  | some "render" => renderHelp
  | some "analyze" => analyzeHelp
  | some "extract" => extractHelp
  | some "check" => checkHelp
  | _ => generalHelp

end Microdata.Command
