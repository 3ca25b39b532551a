import Microdata.Text.Split
import Microdata.Yaml.Timestamp
set_option autoImplicit false

namespace Microdata.Yaml

inductive Kind where
  | null | bool | int | float | date | text | bytes
  | list | record | set
  | pairs
  | merge
  /-- The key whose value stands for the record around it. -/
  | equals
  | unknown
  deriving DecidableEq, Repr

def corePrefix : String := "tag:yaml.org,2002:"

def Kind.ofTag (tag : String) : Kind :=
  if corePrefix.toList.isPrefixOf tag.toList then
    match String.ofList (tag.toList.drop corePrefix.length) with
    | "null" => .null
    | "bool" => .bool
    | "int" => .int
    | "float" => .float
    | "timestamp" => .date
    | "str" => .text
    | "binary" => .bytes
    | "seq" => .list
    | "map" => .record
    | "set" => .set
    | "omap" | "pairs" => .pairs
    | "merge" => .merge
    | "value" => .equals
    | _ => .unknown
  else .unknown

def isNullText (s : String) : Bool := ["~", "null", "Null", "NULL"].contains s

def trueTexts : List String :=
  ["yes", "Yes", "YES", "true", "True", "TRUE", "on", "On", "ON"]

def falseTexts : List String :=
  ["no", "No", "NO", "false", "False", "FALSE", "off", "Off", "OFF"]

def unsigned : List Char → List Char
  | '-' :: rest => rest
  | '+' :: rest => rest
  | cs => cs

def isDigitOrLine (c : Char) : Bool := c.isDigit || c == '_'

def isDigits : List Char → Bool
  | [] => false
  | c :: rest => c.isDigit && rest.all isDigitOrLine

def isSixtieth : List Char → Bool
  | [a] => a.isDigit
  | [a, b] => '0' ≤ a && a ≤ '5' && b.isDigit
  | _ => false

def isExponent : List Char → Bool
  | [] => true
  | [_] => false
  | e :: sign :: digits =>
    (e == 'e' || e == 'E') && (sign == '-' || sign == '+') && !digits.isEmpty &&
      digits.all Char.isDigit

def isFraction (cs : List Char) : Bool :=
  isExponent (cs.dropWhile isDigitOrLine)

def isFloatText (cs : List Char) : Bool :=
  let body := unsigned cs
  let pointed := match Text.cut? '.' body with
    | some (whole, fraction) =>
      (isDigits whole && isFraction fraction) ||
        (match Text.split ':' whole with
          | first :: second :: rest =>
            isDigits first && (second :: rest).all isSixtieth && fraction.all isDigitOrLine
          | _ => false)
    | none => false
  pointed || [".inf", ".Inf", ".INF"].contains (String.ofList body) ||
    [".nan", ".NaN", ".NAN"].contains (String.ofList cs) ||
    (match cs with
      | '.' :: d :: rest => d.isDigit && isFraction rest
      | _ => false)

def isIntText (cs : List Char) : Bool :=
  match unsigned cs with
  | '0' :: 'b' :: rest => !rest.isEmpty && rest.all fun c => c == '0' || c == '1' || c == '_'
  | '0' :: 'x' :: rest => !rest.isEmpty && rest.all fun c => Numeric.isHexDigit c || c == '_'
  | '0' :: rest => rest.all fun c => ('0' ≤ c && c ≤ '7') || c == '_'
  | cs =>
    match Text.split ':' cs with
    | first :: rest => isDigits first && rest.all isSixtieth
    | [] => false

/-- The kind of value that a plain text spells; a line end behind it does not count. -/
def implicitKind (text : String) : Kind :=
  let cs := withoutLineEnd text
  let s := String.ofList cs
  if text = "" then .null
  else if trueTexts.contains s || falseTexts.contains s then .bool
  else if isFloatText cs then .float
  else if isIntText cs then .int
  else if s == "<<" then .merge
  else if isNullText s then .null
  else if isTimestamp s then .date
  else if s == "=" then .equals
  else if s == "!" || s == "&" || s == "*" then .unknown
  else .text

end Microdata.Yaml
