import Microdata.Number.Shortest
import Microdata.Pairs
import Microdata.Text.Lowercase
import Microdata.Text.Quoted
import Microdata.Value.Basic
import Microdata.Yaml.Kind
set_option autoImplicit false

/-!
Values as YAML texts, in blocks. A text is written plain if it reads back as that text, else in
single quotes, and in double ones if it holds what must be escaped; long texts are folded at spaces.
What occurs at several places is written once, with a name, and named at the others.
-/

namespace Microdata.Yaml

inductive Item where
  | scalar (kind : Kind) (text : String)
  | list (items : List Item)
  /-- A record, with a label if it may occur at several places. -/
  | record (label : Option String) (entries : List (String × Item))

def floatText (x : Binary64) : String :=
  match x with
  | .nan => ".nan"
  | .inf negative => if negative then "-.inf" else ".inf"
  | x =>
    let cs := x.text.toList
    if cs.contains '.' then x.text
    else String.ofList (cs.flatMap fun c => if c == 'e' then ".0e".toList else [c])

def Item.ofEntries (labelName : Option String) (entries : List (String × Item)) : Item :=
  match labelName with
  | none => .record none entries
  | some l =>
    let others := entries.filter fun e => e.1 != l
    match entries.find? fun e => e.1 == l with
    | some (_, .scalar _ label) => .record (some label) others
    | _ => .record none others

mutual
def Item.ofValue (labelName : Option String) : Value → Item
  | .bool b => .scalar .bool (if b then "true" else "false")
  | .int n => .scalar .int (toString n)
  | .float x => .scalar .float (floatText x)
  | .text s => .scalar .text s
  | .list items => .list (itemsOf labelName items)
  | .tuple items => .list (itemsOf labelName items)
  | .record fields => Item.ofEntries labelName (entriesOf labelName fields)
  | _ => .scalar .null "null"

def itemsOf (labelName : Option String) : List Value → List Item
  | [] => []
  | v :: rest => Item.ofValue labelName v :: itemsOf labelName rest

def entriesOf (labelName : Option String) : List (Key × Value) → List (String × Item)
  | [] => []
  | (.text name, v) :: rest =>
    (name, Item.ofValue labelName v) :: entriesOf labelName rest
  | _ :: rest => entriesOf labelName rest
end

structure Makeup where
  multiline : Bool
  plain : Bool
  singleQuoted : Bool

def isWide (c : Char) : Bool := c == '\x85' || c == '\u2028' || c == '\u2029'

def endsLine (c : Char) : Bool := c == '\n' || isWide c

def separates (c : Char) : Bool := c == ' ' || c == '\t' || c == '\r' || c == '\x00' || endsLine c

def isSpecial (c : Char) : Bool :=
  let n := c.toNat
  !(c == '\n' || (0x20 ≤ n && n ≤ 0x7e) || n == 0x85 ||
    (0xa0 ≤ n && n ≤ 0xfffd && n != 0xfeff) || (0x10000 ≤ n && n < 0x10ffff))

def beginsMarked (cs : List Char) : Bool :=
  "---".toList.isPrefixOf cs || "...".toList.isPrefixOf cs ||
    match cs with
    | [] => false
    | c :: rest =>
      "#,[]\x7b\x7d&*!|>'\"%@`".toList.contains c ||
        ((c == '?' || c == ':' || c == '-') && rest.head?.all separates)

def hasPair (p q : Char → Bool) : List Char → Bool
  | a :: b :: rest => (p a && q b) || hasPair p q (b :: rest)
  | _ => false

def holdsMark (cs : List Char) : Bool :=
  hasPair (· == ':') separates cs || cs.getLast? == some ':' ||
    hasPair separates (· == '#') cs

def isSpace (c : Char) : Bool := c == ' '

def makeup (s : String) : Makeup :=
  let cs := s.toList
  let multiline := cs.any endsLine
  let escaped := hasPair isSpace endsLine cs || cs.any isSpecial
  let broken := hasPair endsLine isSpace cs
  let padded (c : Char) := c == ' ' || endsLine c
  { multiline := multiline
    plain := !(multiline || escaped || cs.head?.any padded || cs.getLast?.any padded ||
      beginsMarked cs || holdsMark cs)
    singleQuoted := !(escaped || broken) }

def width : Nat := 80

structure Output where
  written : List Char := []
  column : Nat := 0
  spaced : Bool := true
  indented : Bool := true

namespace Output

def put (o : Output) (cs : List Char) : Output :=
  { o with written := cs.reverse ++ o.written, column := o.column + cs.length }

def newline (o : Output) : Output := ⟨'\n' :: o.written, 0, true, true⟩

def lineEnd (o : Output) (c : Char) : Output := ⟨c :: o.written, 0, true, true⟩

def mark (o : Output) (cs : List Char) (spaceBefore keepsIndent : Bool) : Output :=
  let o := o.put (if o.spaced || !spaceBefore then cs else ' ' :: cs)
  { o with spaced := false, indented := o.indented && keepsIndent }

def indentTo (o : Output) (indent : Nat) : Output :=
  let o := if !o.indented || indent < o.column || (o.column == indent && !o.spaced) then o.newline
    else o
  if o.column < indent then
    { o.put (List.replicate (indent - o.column) ' ') with spaced := true }
  else o

/-- Words with the spaces between them: where the line is full, a single space becomes a new line.
At the ends of a quoted text spaces stay. -/
def words (indent : Nat) (split atEnds : Bool) (total : Nat) :
    (fuel : Nat) → (position : Nat) → List Char → Output → Output
  | 0, _, _, o => o
  | fuel + 1, position, cs, o =>
    match cs with
    | [] => o
    | ' ' :: _ =>
      let n := (cs.takeWhile isSpace).length
      let next := position + n
      let o := if n == 1 && width < o.column && split && (atEnds || (position != 0 && next != total))
        then o.indentTo indent else o.put (List.replicate n ' ')
      words indent split atEnds total fuel next (cs.drop n) o
    | _ =>
      let word := cs.takeWhile (!isSpace ·)
      words indent split atEnds total fuel (position + word.length) (cs.drop word.length)
        (o.put word)

def plain (o : Output) (indent : Nat) (split : Bool) (cs : List Char) : Output :=
  let o := if o.spaced then o else o.put [' ']
  let o := { o with spaced := false, indented := false }
  let o := o.words indent split true cs.length (2 * cs.length + 1) 0 cs
  { o with spaced := false, indented := false }

def singleText (indent : Nat) (split : Bool) (total : Nat) :
    (fuel : Nat) → (position : Nat) → List Char → Output → Output
  | 0, _, _, o => o
  | fuel + 1, position, cs, o =>
    match cs with
    | [] => o
    | c :: rest =>
      if c == ' ' then
        let n := (cs.takeWhile isSpace).length
        let next := position + n
        let o := if n == 1 && width < o.column && split && position != 0 && next != total
          then o.indentTo indent else o.put (List.replicate n ' ')
        singleText indent split total fuel next (cs.drop n) o
      else if endsLine c then
        let ends := cs.takeWhile endsLine
        let o := if c == '\n' then o.newline else o
        let o := (ends.foldl lineEnd o).indentTo indent
        singleText indent split total fuel (position + ends.length) (cs.drop ends.length) o
      else if c == '\'' then
        singleText indent split total fuel (position + 1) rest (o.put ['\'', '\''])
      else singleText indent split total fuel (position + 1) rest (o.put [c])

def singleQuoted (o : Output) (indent : Nat) (split : Bool) (cs : List Char) : Output :=
  let o := o.mark ['\''] true false
  (singleText indent split cs.length (cs.length + 1) 0 cs o).mark ['\''] false false

def escapeLetter? (c : Char) : Option Char :=
  match c with
  | '\x00' => some '0'
  | '\x07' => some 'a'
  | '\x08' => some 'b'
  | '\t' => some 't'
  | '\n' => some 'n'
  | '\x0b' => some 'v'
  | '\x0c' => some 'f'
  | '\r' => some 'r'
  | '\x1b' => some 'e'
  | '"' => some '"'
  | '\\' => some '\\'
  | '\x85' => some 'N'
  | '\xa0' => some '_'
  | '\u2028' => some 'L'
  | '\u2029' => some 'P'
  | _ => none

def standsInDouble (c : Char) : Bool :=
  let n := c.toNat
  c != '"' && c != '\\' && ((0x20 ≤ n && n ≤ 0x7e) ||
    (0xa0 ≤ n && n ≤ 0xfffd && n != 0x2028 && n != 0x2029 && n != 0xfeff))

def upperHex (digits n : Nat) : List Char := (Text.hexDigits digits n).map Char.toUpper

def escape (c : Char) : List Char :=
  match escapeLetter? c with
  | some e => ['\\', e]
  | none =>
    if c.toNat < 0x100 then '\\' :: 'x' :: upperHex 2 c.toNat
    else if c.toNat < 0x10000 then '\\' :: 'u' :: upperHex 4 c.toNat
    else '\\' :: 'U' :: upperHex 8 c.toNat

/-- A new line inside of double quotes, behind a backslash. A space that it begins with needs one
more. -/
def breakLine (o : Output) (indent : Nat) (next : Option Char) : Output :=
  let o := (o.put ['\\']).indentTo indent
  let o := { o with spaced := false, indented := false }
  if next == some ' ' then o.put ['\\'] else o

/-- A text in double quotes; `run` holds the characters that are still to be written. A line that is
full is broken in front of a space, and in front of or behind an escape. -/
def doubleText (indent : Nat) (split : Bool) (total : Nat) :
    (position : Nat) → (run : List Char) → List Char → Output → Output
  | _, run, [], o => o.put run
  | position, run, c :: rest, o =>
    let inside := 0 < position && position + 1 < total && split
    if standsInDouble c then
      if inside && (c == ' ' || run.isEmpty) && width < o.column + run.length then
        doubleText indent split total (position + 1) [c] rest
          ((o.put run).breakLine indent (some c))
      else doubleText indent split total (position + 1) (run ++ [c]) rest o
    else
      let o := (o.put run).put (escape c)
      let o := if inside && width + 1 < o.column then o.breakLine indent rest.head? else o
      doubleText indent split total (position + 1) [] rest o

def doubleQuoted (o : Output) (indent : Nat) (split : Bool) (cs : List Char) : Output :=
  let o := o.mark ['"'] true false
  (doubleText indent split cs.length 0 [] cs o).mark ['"'] false false

def scalar (o : Output) (indent : Nat) (isKey : Bool) (kind : Kind) (text : String) : Output :=
  let cs := text.toList
  let m := makeup text
  let empty := cs.isEmpty
  if kind == implicitKind text && m.plain && !(isKey && (empty || m.multiline)) then
    if empty then o else o.plain indent (!isKey) cs
  else if m.singleQuoted && !(isKey && m.multiline) then o.singleQuoted indent (!isKey) cs
  else o.doubleQuoted indent (!isKey) cs

end Output

structure Names where
  names : List (String × String)
  written : List String := []

def keyWidth : Nat := 128

def isSimpleKey (name : String) : Bool :=
  name.length + 5 < keyWidth && name != "" && !(makeup name).multiline

def Output.hollow (o : Output) (opening closing : Char) : Output :=
  (o.mark [opening] true false).mark [closing] false false

mutual
def write (n : Names) (indent : Option Nat) (inRecord : Bool) (o : Output) : Item → Output × Names
  | .scalar kind text => (o.scalar ((indent.map (· + 2)).getD 2) false kind text, n)
  | .list items =>
    if items.isEmpty then (o.hollow '[' ']', n)
    else
      let inner := match indent with
        | none => 0
        | some i => if inRecord && !o.indented then i else i + 2
      writeItems n inner o items
  | .record label entries =>
    let inner := (indent.map (· + 2)).getD 0
    match label with
    | none =>
      if entries.isEmpty then (o.hollow '\x7b' '\x7d', n) else writeEntries n inner o entries
    | some l =>
      match lookup? l n.names with
      | none =>
        if entries.isEmpty then (o.hollow '\x7b' '\x7d', n) else writeEntries n inner o entries
      | some name =>
        if n.written.contains l then (o.mark ('*' :: name.toList) true false, n)
        else
          let n := { n with written := l :: n.written }
          let o := o.mark ('&' :: name.toList) true false
          if entries.isEmpty then (o.hollow '\x7b' '\x7d', n) else writeEntries n inner o entries

def writeItems (n : Names) (indent : Nat) (o : Output) : List Item → Output × Names
  | [] => (o, n)
  | item :: rest =>
    let o := (o.indentTo indent).mark ['-'] true true
    let r := write n (some indent) false o item
    writeItems r.2 indent r.1 rest

def writeEntries (n : Names) (indent : Nat) (o : Output) : List (String × Item) → Output × Names
  | [] => (o, n)
  | (name, item) :: rest =>
    let o := o.indentTo indent
    let o := if isSimpleKey name then
        (o.scalar (indent + 2) true .text name).mark [':'] false false
      else
        let o := (o.mark ['?'] true true).scalar (indent + 2) false .text name
        (o.indentTo indent).mark [':'] true true
    let r := write n (some indent) true o item
    writeEntries r.2 indent r.1 rest
end

mutual
/-- The labels of the records inside an item, in the order in which they are met; what is inside of
a record that has been met before is not looked at again. -/
def labels (seen : List String) : Item → List String
  | .scalar _ _ => seen
  | .list items => labelsOfItems seen items
  | .record none entries => labelsOfEntries seen entries
  | .record (some l) entries =>
    if seen.contains l then l :: seen else labelsOfEntries (l :: seen) entries

def labelsOfItems (seen : List String) : List Item → List String
  | [] => seen
  | item :: rest => labelsOfItems (labels seen item) rest

def labelsOfEntries (seen : List String) : List (String × Item) → List String
  | [] => seen
  | (_, item) :: rest => labelsOfEntries (labels seen item) rest
end

def repeated : (before : List String) → List String → List String
  | _, [] => []
  | before, l :: rest =>
    if before.count l == 1 then l :: repeated (l :: before) rest else repeated (l :: before) rest

def anchorName (n : Nat) : String :=
  let ds := Nat.toDigits 10 n
  "id" ++ String.ofList (List.replicate (3 - ds.length) '0' ++ ds)

def namesOf (item : Item) : Names :=
  let ls := repeated [] (labels [] item).reverse
  ⟨(ls.zipIdx 1).map fun (l, i) => (l, anchorName i), []⟩

def Item.text (item : Item) : String :=
  let o := (write (namesOf item) none false {} item).1
  String.ofList (o.indentTo 0).written.reverse

/-- A value as text. If labels are given, each in the entry of one name, records with the same label
are one record. -/
def text (labelName : Option String) (v : Value) : String := (Item.ofValue labelName v).text

end Microdata.Yaml
