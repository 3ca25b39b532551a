import Microdata.Markup.CharRef
import Microdata.Text.Blank
import Microdata.Text.Lowercase
import Microdata.Text.Quoted
import Microdata.Fault
import Microdata.Pairs
set_option autoImplicit false

/-!
What a text of markup says, one event after the other: tags that start and stop elements, and the
data between them. Reading is tolerant. Comments, declarations and instructions say nothing; what
begins like a construct but does not end like one is data; scripts and styles hold raw data up to
their own end tag, and of one without an end tag only what looks like one counts, with what stands
before it.

`construct` reads what follows a `<` and says how many characters it took.
-/

namespace Microdata.Markup

inductive Event where
  | start (tag : String) (attributes : List (String × String))
  | empty (tag : String) (attributes : List (String × String))
  | stop (tag : String)
  | data (text : String)
  deriving DecidableEq, Repr

def isRaw (tag : String) : Bool := tag == "script" || tag == "style"

def isTagChar (c : Char) : Bool :=
  !(c == '\t' || c == '\n' || c == '\r' || c == '\x0c' || c == ' ' || c == '/' || c == '>' ||
    c == '\x00')

/-- The number of blanks and slashes at the front; a slash in front of `>` ends the tag instead. -/
def separators : List Char → Nat
  | '/' :: '>' :: _ => 0
  | c :: rest => if Text.isBlank c || c == '/' then separators rest + 1 else 0
  | [] => 0

def separates (c : Char) : Bool := Text.isBlank c || c == '\'' || c == '"' || c == '/'

def isAttributeChar (c : Char) : Bool := !(Text.isBlank c || c == '/' || c == '=' || c == '>')

def upTo? (quote : Char) (cs : List Char) : Option (List Char) :=
  if cs.contains quote then some (cs.takeWhile (· != quote)) else none

/-- The value behind an attribute's name as it is written, and the number of characters that it
takes with the equals signs in front of it. A quote that is not closed begins no value; an equals
sign in front of it may then belong to the value. -/
def attributeValue (cs : List Char) : List Char × Nat :=
  let before := (cs.takeWhile Text.isBlank).length
  let afterBlanks := cs.drop before
  let signs := (afterBlanks.takeWhile (· == '=')).length
  let afterSigns := afterBlanks.drop signs
  let gap := (afterSigns.takeWhile Text.isBlank).length
  let value := afterSigns.drop gap
  let bare (cs : List Char) := cs.takeWhile fun c => !(Text.isBlank c || c == '>')
  if signs == 0 then ([], 0)
  else match value with
    | c :: rest =>
      if c == '\'' || c == '"' then
        match upTo? c rest with
        | some text => (text, before + signs + gap + text.length + 2)
        | none =>
          if gap != 0 then ([], before + signs)
          else if signs == 1 then ([], 0)
          else
            let text := '=' :: bare value
            (text, before + (signs - 1) + text.length)
      else
        let text := bare value
        (text, before + signs + gap + text.length)
    | [] => ([], before + signs + gap)

def oneAttribute (c : Char) (rest : List Char) : (String × List Char) × Nat :=
  let name := c :: rest.takeWhile isAttributeChar
  let (value, width) := attributeValue (rest.drop (name.length - 1))
  let more := name.length - 1 + width
  ((Text.lower (String.ofList name), value), more + separators (rest.drop more))

def beginsAttribute (last c : Char) : Bool :=
  separates last && !(Text.isBlank c || c == '/' || c == '>')

/-- The attributes at the front of a text, with names in lower case and values as they are written,
and what follows them; `last` is the character read last. -/
def attributes (last : Char) : List Char → List (String × List Char) × List Char
  | [] => ([], [])
  | c :: rest =>
    if beginsAttribute last c then
      let first := oneAttribute c rest
      let others := attributes ((rest.take first.2).getLastD c) (rest.drop first.2)
      (first.1 :: others.1, others.2)
    else ([], c :: rest)
termination_by cs => cs.length
decreasing_by simp only [List.length_drop, List.length_cons]; omega

/-- The attributes of an element, with their references replaced: of two with one name the later
value counts, in the earlier place. -/
def collect (pairs : List (String × List Char)) : Except Fault (List (String × String)) :=
  pairs.foldlM (fun as p => do .ok (assign p.1 (← unescape p.2) as)) []

/-- What a construct comes to: events, and the number of characters behind its `<`; or it does not
end. -/
inductive Outcome where
  | read (events : List Event) (more : Nat)
  | incomplete

def startTag (cs : List Char) : Except Fault Outcome :=
  let name := cs.takeWhile isTagChar
  let width := name.length + separators (cs.drop name.length)
  let (pairs, left) := attributes ((cs.take width).getLastD ' ') (cs.drop width)
  let tag := Text.lower (String.ofList name)
  let more := cs.length - left.length
  let whole (f : List (String × String) → Outcome) := (collect pairs).map f
  match left with
  | [] => .ok .incomplete
  | '>' :: _ => whole fun as => .read [.start tag as] (more + 1)
  | '/' :: '>' :: _ => whole fun as => .read [.empty tag as] (more + 2)
  | c :: _ =>
    if c == '=' || c.isAlpha then .ok .incomplete
    else whole fun _ => .read [.data (String.ofList ('<' :: cs.take more))] more

def isEndTagChar (c : Char) : Bool :=
  c.isAlphanum || c == '-' || c == '.' || c == ':' || c == '_'

def endTagName? (cs : List Char) : Option (List Char) :=
  let inner := Text.trim Text.isBlank cs
  if inner.head?.any Char.isAlpha && inner.all isEndTagChar then some inner
  else if cs.head?.any Char.isAlpha then some (cs.takeWhile isTagChar)
  else none

def throughClose? (cs : List Char) : Option Nat :=
  (upTo? '>' cs).map (·.length + 1)

def endTag (cs : List Char) : Outcome :=
  match upTo? '>' cs with
  | none => .incomplete
  | some inner =>
    let events := match endTagName? inner with
      | some name => [.stop (Text.lower (String.ofList name))]
      | none => []
    .read events (inner.length + 2)

def blanksThen? (c : Char) (cs : List Char) : Option Nat :=
  let n := (cs.takeWhile Text.isBlank).length
  if (cs.drop n).head? == some c then some (n + 1) else none

def through? (closes? : List Char → Option Nat) : List Char → Option Nat
  | [] => none
  | c :: rest =>
    match closes? (c :: rest) with
    | some n => some n
    | none => (through? closes? rest).map (· + 1)

def commentClose? : List Char → Option Nat
  | '-' :: '-' :: rest => (blanksThen? '>' rest).map (· + 2)
  | _ => none

def conditionClose? : List Char → Option Nat
  | ']' :: rest => (blanksThen? '>' rest).map (· + 1)
  | _ => none

def sectionClose? : List Char → Option Nat
  | ']' :: rest => do
    let n ← blanksThen? ']' rest
    let m ← blanksThen? '>' (rest.drop n)
    some (1 + n + m)
  | _ => none

def isSectionChar (c : Char) : Bool := c.isAlphanum || c == '-' || c == '_' || c == '.'

/-- A section in brackets; `cs` follows its first bracket. The word that opens it says how it ends.
-/
def markedSection (cs : List Char) : Except Fault Outcome :=
  match cs with
  | [] => .ok .incomplete
  | c :: rest =>
    if c.isAlpha then
      let word := c :: rest.takeWhile isSectionChar
      let after := cs.drop word.length
      let blanks := after.takeWhile Text.isBlank
      if after.length == blanks.length then .ok .incomplete
      else
        let name := String.ofList (word.map Char.toLower)
        let closes? :=
          if ["temp", "cdata", "ignore", "include", "rcdata"].contains name then some sectionClose?
          else if ["if", "else", "endif"].contains name then some conditionClose?
          else none
        match closes? with
        | none => .error (.sectionWord (String.ofList (word ++ blanks)))
        | some closes? =>
          match through? closes? cs with
          | none => .ok .incomplete
          | some n => .ok (.read [] (n + 2))
    else .error (.sectionName (String.ofList (("<![".toList ++ cs).take 20)))

def declaration (cs : List Char) : Except Fault Outcome :=
  let skip (from_ : Nat) : Outcome := match throughClose? (cs.drop from_) with
    | none => .incomplete
    | some n => .read [] (1 + from_ + n)
  match cs with
  | '-' :: '-' :: rest => .ok (match through? commentClose? rest with
    | none => .incomplete
    | some n => .read [] (3 + n))
  | '[' :: rest => markedSection rest
  | cs =>
    if (cs.take 7).map Char.toLower == "doctype".toList then .ok (skip 7) else .ok (skip 0)

/-- What follows a `<` that ends nowhere: data up to the next `>`, or else up to the next `<`. -/
def recovered (cs : List Char) : Except Fault (List Event × Nat) :=
  let data (n : Nat) := (unescape ('<' :: cs.take n)).map fun s => ([.data s], n)
  match throughClose? cs with
  | some n => data n
  | none => data (((upTo? '<' cs).map List.length).getD 0)

def construct (cs : List Char) : Except Fault (List Event × Nat) := do
  let outcome ← match cs with
    | '/' :: rest => .ok (endTag rest)
    | '!' :: rest => declaration rest
    | '?' :: rest => .ok (match throughClose? rest with
      | none => .incomplete
      | some n => .read [] (n + 1))
    | c :: _ => if c.isAlpha then startTag cs else .ok (.read [.data "<"] 0)
    | [] => .ok (.read [.data "<"] 0)
  match outcome with
  | .read events more => .ok (events, more)
  | .incomplete => recovered cs

/-- Whether a character looks like a letter of the name of an element of raw data: its case does not
matter, and the long and the dotted and dotless forms of a letter look like it. -/
def looksLike (letter c : Char) : Bool :=
  c.toLower == letter || (letter == 's' && c == 'ſ') || (letter == 'i' && (c == 'İ' || c == 'ı'))

def rawClose? (tag : List Char) : List Char → Option (Nat × Bool)
  | '<' :: '/' :: rest => do
    let blanks := (rest.takeWhile Text.isBlank).length
    let word := (rest.drop blanks).take tag.length
    if word.length == tag.length && (tag.zipWith looksLike word).all id then
      let n ← blanksThen? '>' (rest.drop (blanks + tag.length))
      some (2 + blanks + tag.length + n, word.map Char.toLower == tag)
    else none
  | _ => none

/-- Raw data up to the end tag: the data, and the width of the end tag; without one, the data
through the last text that looks like one. -/
def rawData? (tag : List Char) : List Char → Option (List Char × Option Nat)
  | [] => none
  | c :: rest =>
    match rawClose? tag (c :: rest) with
    | some (n, true) => some ([], some n)
    | some (n, false) =>
      match rawData? tag rest with
      | some (text, close) => some (c :: text, close)
      | none => some ((c :: rest).take n, none)
    | none => (rawData? tag rest).map fun (text, close) => (c :: text, close)

def opensRaw? : List Event → Option String
  | [] => none
  | [.start tag _] => if isRaw tag then some tag else none
  | _ :: rest => opensRaw? rest

def dataEvent (s : String) : List Event := if s = "" then [] else [.data s]

def eventsFrom (raw : Option String) (cs : List Char) : Except Fault (List Event) :=
  match cs with
  | [] => .ok []
  | c :: rest =>
    match raw with
    | some tag =>
      match rawData? tag.toList (c :: rest) with
      | none => .ok []
      | some (text, none) => .ok (dataEvent (String.ofList text))
      | some (text, some n) => do
        let es ← eventsFrom none (rest.drop (text.length + (n - 1)))
        .ok (dataEvent (String.ofList text) ++ .stop tag :: es)
    | none =>
      if c == '<' then
        match construct rest with
        | .error f => .error f
        | .ok (events, more) => do
          let es ← eventsFrom (opensRaw? events) (rest.drop more)
          .ok (events ++ es)
      else
        let text := c :: rest.takeWhile (· != '<')
        match unescape text with
        | .error f => .error f
        | .ok s => do
          let es ← eventsFrom none (rest.drop (text.length - 1))
          .ok (dataEvent s ++ es)
termination_by cs.length
decreasing_by all_goals simp only [List.length_drop, List.length_cons]; omega

def events (s : String) : Except Fault (List Event) := eventsFrom none s.toList

end Microdata.Markup
