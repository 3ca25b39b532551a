import Microdata.Value.Basic
import Microdata.Yaml.Node
import Microdata.Yaml.Scalar
set_option autoImplicit false

namespace Microdata.Yaml

inductive Part where
  | scalar (v : Value)
  | list (items : List Nat)
  | record (entries : List (Nat × Nat))
  | set (items : List Nat)
  | pairs (entries : List (Nat × Nat))

structure Assembly where
  nodes : Array Node
  parts : Array (Option Part)
  /-- The collections that have been met and not yet been looked into, the last one first. -/
  waiting : List Nat := []

abbrev Assembles := StateT Assembly (Except ReadError)

def nodeAt (id : Nat) : Assembles Node := do
  match (← get).nodes[id]? with
  | some n => return n
  | none => throw .malformed

def setEntries (id : Nat) (entries : List (Nat × Nat)) : Assembles Unit :=
  modify fun a =>
    { a with nodes := a.nodes.modify id fun n => { n with content := .record entries } }

def setKind (id : Nat) (kind : Kind) : Assembles Unit :=
  modify fun a => { a with nodes := a.nodes.modify id fun n => { n with kind := kind } }

def setPart (id : Nat) (part : Part) : Assembles Unit :=
  modify fun a => { a with parts := a.parts.set! id (some part) }

def entriesOf? (n : Node) : Option (List (Nat × Nat)) :=
  match n.content with
  | .record entries => some entries
  | _ => none

def cutEntries? (nodes : Array Node) (kind : Kind) :
    List (Nat × Nat) → Option (List (Nat × Nat) × (Nat × Nat) × List (Nat × Nat))
  | [] => none
  | e :: rest =>
    if nodes[e.1]?.any fun n => n.kind == kind then some ([], e, rest)
    else (cutEntries? nodes kind rest).map fun (before, found, after) => (e :: before, found, after)

mutual
/-- The entries that merge other records replaced: those of the other records stand in front of the
rest. A key that stands for the record around it is an ordinary text there. -/
def flatten (id : Nat) : (fuel : Nat) → Assembles Unit
  | 0 => throw (.fault .tooDeep)
  | fuel + 1 => do
    let merged ← takeMerges id fuel
    let n ← nodeAt id
    let entries := (entriesOf? n).getD []
    setEntries id (merged ++ entries)
    for e in entries do
      if (← nodeAt e.1).kind == .equals then setKind e.1 .text
termination_by structural fuel => fuel

def takeMerges (id : Nat) : (fuel : Nat) → Assembles (List (Nat × Nat))
  | 0 => throw (.fault .tooDeep)
  | fuel + 1 => do
    let n ← nodeAt id
    match cutEntries? (← get).nodes .merge ((entriesOf? n).getD []) with
    | none => return []
    | some (before, (_, source), after) =>
      setEntries id (before ++ after)
      let merged ← mergedFrom source fuel
      return merged ++ (← takeMerges id fuel)
termination_by structural fuel => fuel

/-- The entries that are merged from a node: those of a record, or of the records of a list, of
which the first one comes last. -/
def mergedFrom (source : Nat) : (fuel : Nat) → Assembles (List (Nat × Nat))
  | 0 => throw (.fault .tooDeep)
  | fuel + 1 => do
    match (← nodeAt source).content with
    | .record _ =>
      flatten source fuel
      return (entriesOf? (← nodeAt source)).getD []
    | .list items => mergedFromAll items fuel
    | .scalar _ => throw .malformed
termination_by structural fuel => fuel

def mergedFromAll (items : List Nat) : (fuel : Nat) → Assembles (List (Nat × Nat))
  | 0 => throw (.fault .tooDeep)
  | fuel + 1 => do
    match items with
    | [] => return []
    | item :: rest =>
      if (entriesOf? (← nodeAt item)).isNone then throw .malformed
      flatten item fuel
      let entries := (entriesOf? (← nodeAt item)).getD []
      return (← mergedFromAll rest fuel) ++ entries
termination_by structural fuel => fuel
end

def mergeSteps : Assembles Nat := do
  let n := (← get).nodes.size
  return 4 * (n + 2) * (n + 2)

/-- How many records may stand for a text one through the other. -/
def maxStandIns : Nat := 950

def scalarText (nodes : Array Node) : (levels : Nat) → Nat → Except ReadError String
  | 0, _ => .error (.fault .tooDeep)
  | levels + 1, id =>
    match nodes[id]?.map Node.content with
    | some (.scalar text) => .ok text
    | some (.record entries) =>
      match cutEntries? nodes .equals entries with
      | some (_, (_, v), _) => scalarText nodes levels v
      | none => .error .malformed
    | _ => .error .malformed

def visit (id : Nat) : Assembles Unit := do
  if ((← get).parts[id]?.getD none).isNone then
    let n ← nodeAt id
    let collection (part : Part) : Assembles Unit := do
      setPart id part
      modify fun a => { a with waiting := id :: a.waiting }
    match n.kind with
    | .list => collection (.list [])
    | .record => collection (.record [])
    | .set => collection (.set [])
    | .pairs => collection (.pairs [])
    | .merge | .equals | .unknown => throw .malformed
    | kind =>
      let text ← scalarText (← get).nodes maxStandIns id
      if kind == .date && (entriesOf? n).isSome then throw (.fault .timestampKind)
      setPart id (.scalar (← scalarValue kind text))

def mayBeKey (id : Nat) : Assembles Bool :=
  return match (← get).parts[id]?.getD none with
    | some (.scalar _) => true
    | _ => false

def visitEntries (id : Nat) : Assembles (List (Nat × Nat)) := do
  if (entriesOf? (← nodeAt id)).isNone then throw .malformed
  flatten id (← mergeSteps)
  let entries := (entriesOf? (← nodeAt id)).getD []
  for (k, v) in entries do
    visit k
    if !(← mayBeKey k) then throw .malformed
    visit v
  return entries

def visitPair (id : Nat) : Assembles (Nat × Nat) := do
  match entriesOf? (← nodeAt id) with
  | some [(k, v)] =>
    visit k
    visit v
    return (k, v)
  | _ => throw .malformed

def lookInto (id : Nat) : Assembles Unit := do
  let n ← nodeAt id
  match n.kind, n.content with
  | .record, _ => setPart id (.record (← visitEntries id))
  | .set, _ => setPart id (.set ((← visitEntries id).map (·.1)))
  | .list, .list items =>
    for item in items do visit item
    setPart id (.list items)
  | .pairs, .list items => setPart id (.pairs (← items.mapM visitPair))
  | _, _ => throw .malformed

def lookIntoAll : (fuel : Nat) → Assembles Unit
  | 0 => return
  | fuel + 1 => do
    match (← get).waiting.reverse with
    | [] => return
    | ids =>
      modify fun a => { a with waiting := [] }
      for id in ids do lookInto id
      lookIntoAll fuel

def assemble (id : Nat) (nodes : Array Node) : Except ReadError (Array (Option Part)) := do
  let start : Assembly := ⟨nodes, Array.replicate nodes.size none, []⟩
  let (_, a) ← (do visit id; lookIntoAll (nodes.size + 1)).run start
  .ok a.parts

namespace Part

/-- What a node stands for down to a depth. Beyond that a collection is empty. -/
def valueTo (parts : Array (Option Part)) : (depth : Nat) → Nat → Value
  | 0, id =>
    match parts[id]?.getD none with
    | some (.scalar v) => v
    | some (.record _) => .record []
    | some (.set _) => .set []
    | _ => .list []
  | depth + 1, id =>
    match parts[id]?.getD none with
    | some (.scalar v) => v
    | some (.list items) => .list (items.map (valueTo parts depth))
    | some (.record entries) => .record (entries.foldl (fun fields (k, v) =>
        match (valueTo parts depth k).toKey with
        | .ok key => Fields.insert key (valueTo parts depth v) fields
        | .error _ => fields) [])
    | some (.set items) => .set (items.foldl (fun keys k =>
        match (valueTo parts depth k).toKey with
        | .ok key => if keys.any key.same then keys else keys ++ [key]
        | .error _ => keys) [])
    | some (.pairs entries) => .list (entries.map fun (k, v) =>
        .tuple [valueTo parts depth k, valueTo parts depth v])
    | none => .none

def inner : Part → List Nat
  | scalar _ => []
  | list items | set items => items
  | record entries | pairs entries => entries.flatMap fun (k, v) => [k, v]

def isWithin (parts : Array (Option Part)) : (depth : Nat) → Nat → Bool
  | 0, _ => false
  | depth + 1, id =>
    match parts[id]?.getD none with
    | some part => part.inner.all (isWithin parts depth)
    | none => true

end Part
end Microdata.Yaml
