import Microdata.Pairs
import Microdata.Yaml.Kind
import Microdata.Yaml.Token
set_option autoImplicit false

/-!
Nodes of YAML texts: scalars, lists and records, each with its kind. A node is given by its place in
the array of all nodes, so that a name can stand for it wherever its anchor has been read, also
inside of itself. `Yaml.document` gives the nodes of a text.
-/

namespace Microdata.Yaml

inductive Content where
  | scalar (text : String)
  | list (items : List Nat)
  | record (entries : List (Nat × Nat))

structure Node where
  kind : Kind
  content : Content

abbrev Handles := List (String × String)

def standardHandles : Handles := [("!", "!"), ("!!", corePrefix)]

structure Reading where
  tokens : List Token
  stop : Option ReadError
  handles : Handles := standardHandles
  names : List (String × Nat) := []
  nodes : Array Node := #[]

abbrev Reads := StateT Reading (Except ReadError)

def malformed {α : Type} : Reads α := throw .malformed

def next? : Reads (Option Token) := do
  let r ← get
  match r.tokens, r.stop with
  | t :: _, _ => return some t
  | [], none => return none
  | [], some e => throw e

def skip : Reads Unit := modify fun r => { r with tokens := r.tokens.tail }

def skip? (t : Token) : Reads Bool := do
  if (← next?) == some t then
    skip
    return true
  else return false

def isNext (ts : List Token) : Reads Bool := return (← next?).any ts.contains

structure Properties where
  anchor : Option String := none
  tag : Option String := none

def fullTag (handle : Option String) (suffix : String) : Reads String := do
  match handle with
  | none => return suffix
  | some h =>
    match lookup? h (← get).handles with
    | some meaning => return meaning ++ suffix
    | none => malformed

def properties : Reads Properties := do
  match ← next? with
  | some (.anchor a) =>
    skip
    match ← next? with
    | some (.tag h t) =>
      skip
      return ⟨some a, some (← fullTag h t)⟩
    | _ => return ⟨some a, none⟩
  | some (.tag h t) =>
    skip
    match ← next? with
    | some (.anchor a) =>
      skip
      return ⟨some a, some (← fullTag h t)⟩
    | _ => return ⟨none, some (← fullTag h t)⟩
  | _ => return {}

namespace Properties

def isSome (p : Properties) : Bool := p.anchor.isSome || p.tag.isSome

/-- The kind that the tag names; without one, or with one that leaves it open, the kind given. -/
def kind (p : Properties) (implicit : Kind) : Kind :=
  match p.tag with
  | none => implicit
  | some tag => if tag = "!" then implicit else .ofTag tag

def scalarKind (p : Properties) (plain : Bool) (text : String) : Kind :=
  p.kind (if plain || p.tag.isSome then implicitKind text else .text)

end Properties

/-- A new node, under the name that its anchor gives to it; every name is given once. -/
def add (p : Properties) (n : Node) : Reads Nat := do
  let r ← get
  let id := r.nodes.size
  set { r with nodes := r.nodes.push n }
  match p.anchor with
  | none => return id
  | some a =>
    if (lookup? a r.names).isSome then malformed
    else
      modify fun r => { r with names := (a, id) :: r.names }
      return id

def addScalar (p : Properties) (plain : Bool) (text : String) : Reads Nat :=
  add p ⟨p.scalarKind plain text, .scalar text⟩

def addEmpty : Reads Nat := addScalar {} true ""

def fill (id : Nat) (content : Content) : Reads Nat := do
  modify fun r => { r with nodes := r.nodes.modify id fun n => { n with content := content } }
  return id

def maxNesting : Nat := 485

def readNothing (p : Properties) : Reads Nat :=
  if p.isSome then addScalar p p.tag.isNone "" else malformed

mutual
/-- The node that stands next, in which others may stand so many levels deep. Blocks are read only
where `block` says so, and lists without indentation only behind keys and their marks. -/
def readNode (block open_ : Bool) (levels : Nat) : (fuel : Nat) → Reads Nat
  | 0 => throw (.fault .tooDeep)
  | fuel + 1 => do
    if levels == 0 then throw (.fault .tooDeep)
    match ← next? with
    | some (.alias name) =>
      skip
      match lookup? name (← get).names with
      | some id => return id
      | none => malformed
    | _ =>
      let p ← properties
      match ← next? with
      | some (.scalar text plain) =>
        skip
        addScalar p plain text
      | some .flowList =>
        skip
        let id ← add p ⟨p.kind .list, .list []⟩
        fill id (.list (← readFlowItems (levels - 1) true fuel))
      | some .flowRecord =>
        skip
        let id ← add p ⟨p.kind .record, .record []⟩
        fill id (.record (← readFlowEntries (levels - 1) true fuel))
      | some .blockList =>
        if block then
          skip
          let id ← add p ⟨p.kind .list, .list []⟩
          fill id (.list (← readItems [.blockEntry, .blockEnd] true (levels - 1) fuel))
        else readNothing p
      | some .blockRecord =>
        if block then
          skip
          let id ← add p ⟨p.kind .record, .record []⟩
          fill id (.record (← readEntries (levels - 1) fuel))
        else readNothing p
      | some .blockEntry =>
        if open_ then
          let id ← add p ⟨p.kind .list, .list []⟩
          fill id (.list (← readItems [.blockEntry, .key, .value, .blockEnd] false (levels - 1) fuel))
        else readNothing p
      | _ => readNothing p
termination_by structural fuel => fuel

def readUnless (block open_ : Bool) (ends : List Token) (levels : Nat) : (fuel : Nat) → Reads Nat
  | 0 => throw (.fault .tooDeep)
  | fuel + 1 => do if ← isNext ends then addEmpty else readNode block open_ levels fuel
termination_by structural fuel => fuel

/-- The items of a list in a block, each behind its mark. One with an indentation of its own is
`closed` by the end of its block. -/
def readItems (ends : List Token) (closed : Bool) (levels : Nat) : (fuel : Nat) → Reads (List Nat)
  | 0 => throw (.fault .tooDeep)
  | fuel + 1 => do
    if ← skip? .blockEntry then
      let id ← readUnless true false ends levels fuel
      return id :: (← readItems ends closed levels fuel)
    else if closed then
      if ← skip? .blockEnd then return [] else malformed
    else
      let _ ← next?
      return []
termination_by structural fuel => fuel

def readEntries (levels : Nat) : (fuel : Nat) → Reads (List (Nat × Nat))
  | 0 => throw (.fault .tooDeep)
  | fuel + 1 => do
    if ← skip? .key then
      let ends := [.key, .value, .blockEnd]
      let k ← readUnless true true ends levels fuel
      let v ← if ← skip? .value then readUnless true true ends levels fuel else addEmpty
      return (k, v) :: (← readEntries levels fuel)
    else if ← skip? .blockEnd then return []
    else malformed
termination_by structural fuel => fuel

def readFlowValue (close : Token) (levels : Nat) : (fuel : Nat) → Reads Nat
  | 0 => throw (.fault .tooDeep)
  | fuel + 1 => do
    if ← skip? .value then readUnless false false [.flowEntry, close] levels fuel else addEmpty
termination_by structural fuel => fuel

/-- The items of a list in brackets. An item may be a record with one entry, without its braces. -/
def readFlowItems (levels : Nat) (first : Bool) : (fuel : Nat) → Reads (List Nat)
  | 0 => throw (.fault .tooDeep)
  | fuel + 1 => do
    if ← skip? .flowListEnd then return []
    else
      if !first && !(← skip? .flowEntry) then malformed
      if ← isNext [.key] then
        let id ← add {} ⟨.record, .record []⟩
        skip
        let k ← readUnless false false [.value, .flowEntry, .flowListEnd] (levels - 1) fuel
        let v ← readFlowValue .flowListEnd (levels - 1) fuel
        let id ← fill id (.record [(k, v)])
        return id :: (← readFlowItems levels false fuel)
      else if ← skip? .flowListEnd then return []
      else
        let id ← readNode false false levels fuel
        return id :: (← readFlowItems levels false fuel)
termination_by structural fuel => fuel

def readFlowEntries (levels : Nat) (first : Bool) : (fuel : Nat) → Reads (List (Nat × Nat))
  | 0 => throw (.fault .tooDeep)
  | fuel + 1 => do
    if ← skip? .flowRecordEnd then return []
    else
      if !first && !(← skip? .flowEntry) then malformed
      if ← skip? .key then
        let k ← readUnless false false [.value, .flowEntry, .flowRecordEnd] levels fuel
        let v ← readFlowValue .flowRecordEnd levels fuel
        return (k, v) :: (← readFlowEntries levels false fuel)
      else if ← skip? .flowRecordEnd then return []
      else
        let k ← readNode false false levels fuel
        let v ← addEmpty
        return (k, v) :: (← readFlowEntries levels false fuel)
termination_by structural fuel => fuel
end

/-- The handles that directives declare, in front of those that every document has; at most one
directive may give a version, which must begin with one, and none may declare a handle again. -/
def readDirectives (versioned : Bool) (declared : Handles) : (fuel : Nat) → Reads Unit
  | 0 => malformed
  | fuel + 1 => do
    match ← next? with
    | some (.directive d) =>
      skip
      match d with
      | .version major =>
        if versioned || major != 1 then malformed else readDirectives true declared fuel
      | .handle name meaning =>
        if (lookup? name declared).isSome then malformed
        else readDirectives versioned ((name, meaning) :: declared) fuel
      | .other => readDirectives versioned declared fuel
    | _ => modify fun r => { r with handles := declared ++ standardHandles }

def isHollow : Option Token → Bool
  | none | some (.directive _) | some .documentStart | some .documentEnd => true
  | _ => false

def skipEnds : (fuel : Nat) → Reads Unit
  | 0 => return
  | fuel + 1 => do if ← skip? .documentEnd then skipEnds fuel

def readDocument (fuel : Nat) : Reads (Option Nat) := do
  let start ← next?
  match start with
  | none => return none
  | some _ =>
    let isOpened := match start with
      | some (.directive _) | some .documentStart => true
      | _ => false
    if isOpened then
      readDirectives false [] fuel
      if !(← skip? .documentStart) then malformed
    let id ← if isOpened && isHollow (← next?) then addEmpty
      else readNode true false maxNesting fuel
    skipEnds fuel
    if (← next?).isSome then
      readDirectives false [] fuel
      let _ ← next?
      malformed
    return some id

def document (s : String) : Except ReadError (Option Nat × Array Node) := do
  let (tokens, stop) := scan s
  let (id, r) ← readDocument (4 * tokens.length + 8) |>.run ⟨tokens, stop, standardHandles, [], #[]⟩
  .ok (id, r.nodes)

end Microdata.Yaml
