import Microdata.Element
import Microdata.Number.Integer
import Microdata.Text.Blank
import Microdata.Text.Digit
import Microdata.Text.Quoted
import Microdata.Text.Split
set_option autoImplicit false

/-!
Selectors: paths that lead from an element to elements below it. A path is cut into tokens and each
step becomes a `Step`; steps are applied one after the other to the elements reached so far. A path
without any mark of a path is the tag of a child.
-/

namespace Microdata

inductive SelectorError where
  | absolute
  | descendant
  | predicate
  | position
  | function
  | expression
  | offset
  | prefixed (name : String)
  | token (text : String)
  | unfinished
  | commentPosition
  | fault (f : Fault)
  deriving DecidableEq, Repr

def SelectorError.message : SelectorError → String
  | absolute => "cannot use absolute path on element"
  | descendant => "invalid descendant"
  | predicate => "invalid predicate"
  | position => "XPath position >= 1 expected"
  | function => "unsupported function"
  | expression => "unsupported expression"
  | offset => "XPath offset from last() must be negative"
  | prefixed name => "prefix " ++ Text.quoted name ++ " not found in prefix map"
  | token text => Text.quoted text
  | unfinished => "'NoneType' object is not callable"
  | commentPosition => "'function' object is not subscriptable"
  | fault f => f.message

namespace Selector

/-- A token: a mark, or a name, which is empty for a blank. -/
inductive Token where
  | mark (text : String)
  | quoted (quote : Char) (text : String)
  | name (text : String)
  deriving DecidableEq, Repr

def isPlain (c : Char) : Bool :=
  !(c == '/' || c == '[' || c == ']' || c == '(' || c == ')' || c == '@' || c == '!' || c == '=' ||
    Text.isBlank c)

def nameWidth (cs : List Char) : Nat :=
  match cs with
  | '\x7b' :: rest =>
    let inner := rest.takeWhile (· != '\x7d')
    let after := rest.drop (inner.length + 1)
    let tail := (after.takeWhile isPlain).length
    if !inner.isEmpty && inner.length < rest.length && tail != 0 then inner.length + 2 + tail
    else (cs.takeWhile isPlain).length
  | cs => (cs.takeWhile isPlain).length

def quoted? (c : Char) (rest : List Char) : Option (List Char) :=
  if (c == '\'' || c == '"') && rest.contains c then some (rest.takeWhile (· != c)) else none

def mark? (c : Char) (rest : List Char) : Option String :=
  match c, rest with
  | ':', ':' :: _ => some "::"
  | '/', '/' :: _ => some "//"
  | '.', '.' :: _ => some ".."
  | '(', ')' :: _ => some "()"
  | '!', '=' :: _ => some "!="
  | c, _ =>
    if ['/', '.', '*', ':', '[', ']', '(', ')', '@', '='].contains c then some (String.singleton c)
    else none

def token (c : Char) (rest : List Char) : Option Token × Nat :=
  match quoted? c rest with
  | some text => (some (.quoted c (String.ofList text)), text.length + 1)
  | none =>
    match mark? c rest with
    | some m => (some (.mark m), m.length - 1)
    | none =>
      let n := nameWidth (c :: rest)
      if n != 0 then (some (.name (String.ofList ((c :: rest).take n))), n - 1)
      else if Text.isBlank c then (some (.name ""), (rest.takeWhile Text.isBlank).length)
      else (none, 0)

def tokens : List Char → List Token
  | [] => []
  | c :: rest =>
    let t := token c rest
    match t.1 with
    | some token => token :: tokens (rest.drop t.2)
    | none => tokens (rest.drop t.2)
termination_by cs => cs.length
decreasing_by all_goals simp only [List.length_drop, List.length_cons]; omega

inductive TagTest where
  | any
  | named
  | unqualified
  | localName (name : String)
  | space (name : String)
  | exact (name : String)
  deriving DecidableEq, Repr

def tagTest (name : String) : TagTest :=
  let cs := name.toList
  if name = "\x7b*\x7d*" then .named
  else if name = "\x7b\x7d*" then .unqualified
  else if "\x7b*\x7d".toList.isPrefixOf cs then .localName (String.ofList (cs.drop 3))
  else if "\x7d*".toList.isSuffixOf cs then .space (String.ofList cs.dropLast)
  else if "\x7b\x7d".toList.isPrefixOf cs then .exact (String.ofList (cs.drop 2))
  else .exact name

/-- Whether an element passes. For some tests a tag needs a first character. -/
def TagTest.holds (t : TagTest) (e : Element) : Except SelectorError Bool :=
  match e.tag with
  | .comment => .ok (t = .any)
  | .named tag =>
    match t with
    | any | named => .ok true
    | unqualified =>
      match tag.toList with
      | [] => .error (.fault .emptyText)
      | c :: _ => .ok (c != '\x7b')
    | localName name => .ok (tag == name || ('\x7d' :: name.toList).isSuffixOf tag.toList)
    | space name => .ok (name.toList.isPrefixOf tag.toList)
    | exact name => .ok (tag == name)

def hasMark (inside : Bool) : List Char → Bool
  | [] => false
  | '\x7b' :: rest => hasMark true rest
  | '\x7d' :: rest => hasMark false rest
  | c :: rest =>
    (!inside && (c == '/' || c == '*' || c == '[' || c == '@' || c == '.')) || hasMark inside rest

def isWild (cs : List Char) : Bool :=
  "\x7b\x7d".toList.isPrefixOf cs && 3 ≤ cs.length || "\x7b*\x7d".toList.isPrefixOf cs

/-- Whether a text is looked for as a path, and not as the tag of a child. -/
def isPath (text : String) : Bool := hasMark false text.toList || isWild text.toList

def childTest (name : String) : TagTest := if isPath name then tagTest name else .exact name

inductive Step where
  | child (test : TagTest)
  | descendant (test : TagTest)
  | self
  | parent
  | attribute (name : String)
  | attributeIs (name value : String) (equal : Bool)
  | hasChild (test : TagTest)
  | childText (test : TagTest) (value : String) (equal : Bool)
  | ownText (value : String) (equal : Bool)
  | fromStart (index : Nat)
  | fromEnd (index : Nat)
  | unfinished

def checkName (name : String) : Except SelectorError Unit :=
  match name.toList with
  | '\x7b' :: _ => .ok ()
  | cs => match Text.cut? ':' cs with
    | some (before, _) => .error (.prefixed (String.ofList before))
    | none => .ok ()

def predicateTokens : List Token → Except SelectorError (Option (List Token × List Token))
  | [] => .ok none
  | .mark "]" :: rest => .ok (some ([], rest))
  | .name "" :: rest => predicateTokens rest
  | t :: rest => do
    match t with
    | .name name => checkName name
    | _ => .ok ()
    let r ← predicateTokens rest
    .ok (r.map fun (ts, rest) => (t :: ts, rest))

def isIndex (s : String) : Bool :=
  let cs := match s.toList with
    | '-' :: rest => rest
    | cs => cs
  !cs.isEmpty && cs.all fun c => (Text.decimalValue? c).isSome

def predicate (ts : List Token) : Except SelectorError Step :=
  match ts with
  | [.mark "@", .name key] => .ok (.attribute key)
  | [.mark "@", .name key, .mark "=", .quoted _ value] => .ok (.attributeIs key value true)
  | [.mark "@", .name key, .mark "!=", .quoted _ value] => .ok (.attributeIs key value false)
  | [.mark ".", .mark "=", .quoted _ value] => .ok (.ownText value true)
  | [.mark ".", .mark "!=", .quoted _ value] => .ok (.ownText value false)
  | [.name name, .mark "=", .quoted _ value] =>
    if isIndex name then .error .predicate else .ok (.childText (childTest name) value true)
  | [.name name, .mark "!=", .quoted _ value] =>
    if isIndex name then .error .predicate else .ok (.childText (childTest name) value false)
  | [.name name] =>
    if isIndex name then
      match Numeric.readInteger 10 name with
      | .error f => .error (.fault f)
      | .ok (.ofNat (n + 1)) => .ok (.fromStart n)
      | .ok _ => .error .position
    else .ok (.hasChild (childTest name))
  | [.name name, .mark "()"] | [.name name, .mark "(", .mark ")"] =>
    if name = "last" then .ok (.fromEnd 0) else .error .function
  | [.name name, .mark "()", .name offset] =>
    if name = "last" then
      match Numeric.readInteger 10 offset with
      | .error _ => .error .expression
      | .ok (.negSucc n) => .ok (.fromEnd (n + 1))
      | .ok _ => .error .offset
    else .error .function
  | [.name name, .mark "(", .mark ")", .name _] =>
    .error (if name = "last" then .expression else .function)
  | _ => .error .predicate

def step (t : Token) (rest : List Token) : Except SelectorError (Step × List Token) :=
  match t with
  | .name name => do
    checkName name
    .ok (.child (tagTest name), rest)
  | .mark "*" => .ok (.child .any, rest)
  | .mark "." => .ok (.self, rest)
  | .mark ".." => .ok (.parent, rest)
  | .mark "//" =>
    match rest with
    | [] => .ok (.unfinished, [])
    | .mark "*" :: rest => .ok (.descendant .any, rest)
    | .name name :: rest => do
      checkName name
      .ok (.descendant (if name = "*" then .any else tagTest name), rest)
    | _ => .error .descendant
  | .mark "[" => do
    match ← predicateTokens rest with
    | none => .ok (.unfinished, [])
    | some (ts, rest) => .ok (← predicate ts, rest)
  | .mark m => .error (.token m)
  | .quoted q s => .error (.token (String.ofList (q :: s.toList ++ [q])))

def steps : (fuel : Nat) → List Token → Except SelectorError (List Step)
  | 0, _ => .ok []
  | _, [] => .ok []
  | fuel + 1, t :: rest => do
    let (s, rest) ← step t rest
    let rest := match rest with
      | .mark "/" :: rest => rest
      | rest => rest
    .ok (s :: (← steps fuel rest))

structure Place where
  element : Element
  around : List (Element × Nat)

namespace Place

def address (p : Place) : List Nat := p.around.map (·.2)

def childrenFrom (parent : Place) (index : Nat) : List Child → List Place
  | [] => []
  | (e, _) :: rest =>
    ⟨e, (parent.element, index) :: parent.around⟩ :: childrenFrom parent (index + 1) rest

def children (p : Place) : List Place := childrenFrom p 0 p.element.children

mutual
def below (around : List (Element × Nat)) : Element → List Place
  | .mk tag attributes text children =>
    belowFrom (.mk tag attributes text children) around 0 children

def belowFrom (parent : Element) (around : List (Element × Nat)) (index : Nat) :
    List Child → List Place
  | [] => []
  | (e, _) :: rest =>
    let around' := (parent, index) :: around
    ⟨e, around'⟩ :: below around' e ++ belowFrom parent around (index + 1) rest
end

def descendants (p : Place) : List Place := below p.around p.element

def parent? (p : Place) : Option Place :=
  match p.around with
  | [] => none
  | (e, _) :: rest => some ⟨e, rest⟩

end Place

def distinct (seen : List (List Nat)) : List Place → List Place
  | [] => []
  | p :: rest =>
    if seen.contains p.address then distinct seen rest
    else p :: distinct (p.address :: seen) rest

abbrev Search := String → Element → Except SelectorError (List Place)

/-- Keeps the places that are picked out of what their own tag leads to from their parent. A tag
that is no path picks nothing. -/
def positioned (search : Search) (pick : List Place → Option Place) (ps : List Place) :
    Except SelectorError (List Place) :=
  ps.filterM fun p =>
    match p.around, p.element.tag with
    | [], _ => .ok false
    | _, .comment => .error .commentPosition
    | (parent, index) :: _, .named tag =>
      match search tag parent with
      | .ok found => .ok ((pick found).any fun q => q.address == [index])
      | .error (.token _) | .error (.fault .emptyText) => .ok false
      | .error e => .error e

def Step.apply (search : Search) (s : Step) (ps : List Place) : Except SelectorError (List Place) :=
  match s with
  | child test => (ps.flatMap Place.children).filterM fun c => test.holds c.element
  | descendant test => (ps.flatMap Place.descendants).filterM fun c => test.holds c.element
  | self => .ok ps
  | parent => .ok (distinct [] (ps.filterMap Place.parent?))
  | «attribute» name => .ok (ps.filter fun p => p.element.has name)
  | attributeIs name value equal =>
    .ok (ps.filter fun p => match p.element.get? name with
      | some v => (v == value) == equal
      | none => false)
  | hasChild test => ps.filterM fun p => p.children.anyM fun c => test.holds c.element
  | childText test value true =>
    ps.filterM fun p => do
      let found ← p.children.filterM fun c => test.holds c.element
      .ok (found.any fun c => c.element.textContent == value)
  | childText test value false =>
    ps.filterM fun p => p.children.anyM fun c => do
      let here ← test.holds c.element
      .ok (here && c.element.textContent != value)
  | ownText value equal => .ok (ps.filter fun p => (p.element.textContent == value) == equal)
  | fromStart index => positioned search (fun found => found[index]?) ps
  | fromEnd index => positioned search (fun found => found.reverse[index]?) ps
  | unfinished => .error .unfinished

def Step.isUnfinished : Step → Bool
  | unfinished => true
  | _ => false

/-- The steps of a path, none of them without an end. A stroke at the end leads to all children. -/
def stepsOf (path : String) : Except SelectorError (List Step) := do
  let cs := path.toList
  let cs := if cs.getLast? == some '/' then cs ++ ['*'] else cs
  if cs.head? == some '/' then .error .absolute
  else
    let ts := tokens cs
    let ss ← steps ts.length ts
    if ss.any Step.isUnfinished then .error .unfinished else .ok ss

/-- The places that a path leads to from the top of a tree. Positions lead to further searches, at
most as many inside each other as there is fuel. -/
def search : (fuel : Nat) → Search
  | 0, _, _ => .error (.fault .tooDeep)
  | fuel + 1, path, e =>
    let top : Place := ⟨e, []⟩
    if isPath path then do
      (← stepsOf path).foldlM (fun ps s => s.apply (search fuel) ps) [top]
    else .ok (top.children.filter fun c => c.element.isTagged path)

def maxNesting : Nat := 200

def select (path : String) (e : Element) : Except SelectorError (List Element) := do
  .ok ((← search maxNesting path e).map (·.element))

end Selector
end Microdata
