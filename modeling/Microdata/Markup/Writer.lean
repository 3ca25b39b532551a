import Microdata.Element
import Microdata.Text.Split
import Microdata.Fault
set_option autoImplicit false

/-!
Elements as markup. Text is escaped except in scripts and styles, attribute values are quoted, and
elements that hold nothing have no end tag. A name that begins with a space in braces is written
with a short prefix instead, which the outermost element declares. Some spaces have prefixes that
are settled; the others are numbered.
-/

namespace Microdata
namespace Markup

def unclosedTags : List String :=
  ["area", "base", "basefont", "br", "col", "embed", "frame", "hr", "img", "input", "isindex",
    "link", "meta", "param", "source", "track", "wbr"]

def escapeTextChar (c : Char) : List Char :=
  if c == '&' then "&amp;".toList
  else if c == '<' then "&lt;".toList
  else if c == '>' then "&gt;".toList
  else [c]

def escapeText (s : String) : String := String.ofList (s.toList.flatMap escapeTextChar)

def escapeValueChar (c : Char) : List Char :=
  if c == '&' then "&amp;".toList
  else if c == '>' then "&gt;".toList
  else if c == '"' then "&quot;".toList
  else [c]

def escapeValue (s : String) : String := String.ofList (s.toList.flatMap escapeValueChar)

def escapeSpaceChar (c : Char) : List Char :=
  if c == '<' then "&lt;".toList
  else if c == '\r' then "&#13;".toList
  else if c == '\n' then "&#10;".toList
  else if c == '\t' then "&#09;".toList
  else escapeValueChar c

def qualified? (name : String) : Option (Except Fault (String × String)) :=
  match name.toList with
  | '\x7b' :: rest =>
    some (match Text.cutLast? '\x7d' rest with
      | some (space, tail) => .ok (String.ofList space, String.ofList tail)
      | none => .error .openBrace)
  | _ => none

abbrev Spaces := List (String × String)

def hosted (host file : List String) : String :=
  "http:" ++ "//" ++ ".".intercalate host ++ "/" ++ "/".intercalate file

def commonSpace : String := hosted ["www", "w3", "org"] ["XML", "1998", "namespace"]

def commonPrefix : String := "xml"

def settledSpaces : Spaces :=
  [(commonSpace, commonPrefix), (hosted ["www", "w3", "org"] ["1999", "xhtml"], "html"),
    (hosted ["www", "w3", "org"] ["1999", "02", "22-rdf-syntax-ns#"], "rdf"),
    (hosted ["schemas", "xmlsoap", "org"] ["wsdl", ""], "wsdl"),
    (hosted ["www", "w3", "org"] ["2001", "XMLSchema"], "xs"),
    (hosted ["www", "w3", "org"] ["2001", "XMLSchema-instance"], "xsi"),
    (hosted ["purl", "org"] ["dc", "elements", "1.1", ""], "dc")]

/-- The spaces of some names, each with the prefix that is settled for it or else with one of its
own, added to those known. -/
def spacesOf (known : Spaces) : List String → Except Fault Spaces
  | [] => .ok known
  | name :: rest =>
    match qualified? name with
    | none => spacesOf known rest
    | some (.error f) => .error f
    | some (.ok (space, _)) =>
      if space = commonSpace || (lookup? space known).isSome then spacesOf known rest
      else
        let mark := (lookup? space settledSpaces).getD ("ns" ++ toString known.length)
        spacesOf (known ++ [(space, mark)]) rest

def writtenName (spaces : Spaces) (name : String) : String :=
  match qualified? name with
  | some (.ok (space, tail)) => (lookup? space spaces).getD commonPrefix ++ ":" ++ tail
  | _ => name

def writeAttributes (spaces : Spaces) (attributes : List (String × String)) : String :=
  String.join (attributes.map fun (name, value) =>
    " " ++ writtenName spaces name ++ "=\"" ++ escapeValue value ++ "\"")

mutual
def writeElement (spaces : Spaces) (declared : String) : Element → String
  | .mk .comment _ text _ => "<!--" ++ escapeText text ++ "-->"
  | .mk (.named tag) attributes text children =>
    let name := writtenName spaces tag
    let lowered := Text.lower name
    let text := if lowered == "script" || lowered == "style" then text else escapeText text
    "<" ++ name ++ declared ++ writeAttributes spaces attributes ++ ">" ++ text ++
      writeChildren spaces children ++
      (if unclosedTags.contains lowered then "" else "</" ++ name ++ ">")

def writeChildren (spaces : Spaces) : List Child → String
  | [] => ""
  | (e, tail) :: rest => writeElement spaces "" e ++ escapeText tail ++ writeChildren spaces rest
end

def ownNames (e : Element) : List String :=
  let names := e.attributes.map (·.1)
  match e.tag with
  | .named tag => tag :: names
  | .comment => names

def declarations (spaces : Spaces) : String :=
  String.join ((spaces.mergeSort fun a b => a.2 ≤ b.2).map fun (space, mark) =>
    " xmlns:" ++ mark ++ "=\"" ++ String.ofList (space.toList.flatMap escapeSpaceChar) ++ "\"")

end Markup

open Markup in
def Element.html (e : Element) : Except Fault String := do
  let spaces ← spacesOf [] (e.descendants.flatMap ownNames)
  .ok (writeElement spaces (declarations spaces) e)

namespace Markup

def childrenHtml : List Child → Except Fault String
  | [] => .ok ""
  | (e, tail) :: rest => do
    let first ← e.html
    .ok (first ++ escapeText tail ++ (← childrenHtml rest))

end Markup

/-- The page as markup. The text in front of its first element stands as it is. -/
def Document.html (d : Document) : Except Fault String := do
  .ok (d.root.text ++ (← Markup.childrenHtml d.root.children))

end Microdata
