set_option autoImplicit false

namespace Microdata

def grammarRules : List String :=
  ["expression ::= or_expr EOF",
    "",
    "or_expr    ::= and_expr ( '||' and_expr )*",
    "and_expr   ::= comparison ( '&&' comparison )*",
    "comparison ::= unary_expr ( comp_op unary_expr )*",
    "unary_expr ::= '!' unary_expr",
    "             | primary",
    "comp_op    ::= '==' | '!=' | '<' | '<=' | '>' | '>='",
    "primary    ::= '@id'",
    "             | IDENT",
    "             | STRING",
    "             | NUMBER",
    "             | BOOL",
    "             | '(' or_expr ')'"]

def grammarMeaning : List String :=
  ["'@id'      the identifier of the record in scope, or \"\" when it has none",
    "IDENT      the property of that name on the record in scope, or \"\" when absent",
    "comp_op    numeric comparison when both sides parse as numbers,",
    "           string comparison otherwise",
    "'@id == IDENT'",
    "           when the property holds a reference (\"#other\"), resolve it",
    "           against the render batch; the constraint passes only if it",
    "           resolves, and rendering continues with the resolved record"]

def grammarLines : List String := "" :: grammarRules ++ "" :: grammarMeaning

end Microdata
