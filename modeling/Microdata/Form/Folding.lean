import Microdata.Form.Path
set_option autoImplicit false

/-!
The record of a form: its pairs stored one after the other at their paths. A record or a list that
came as the value of a pair is the same one inside the record, so later pairs may add to it; the
pairs are given back with their values as they are in the end.
-/

namespace Microdata

/-- A record of the pairs so far, and where their values are in it. -/
structure Folding where
  record : Value := .record []
  places : List (Option Place) := []

namespace Folding

/-- A place after the value at `joined` has gone into a list of two. -/
def moved (joined place : Place) : Place :=
  if joined.isPrefixOf place then joined ++ .index 0 :: place.drop joined.length else place

def recordPlace (places : List (Option Place)) : Placement → List (Option Place)
  | .ignored => places ++ [none]
  | .stored place => places ++ [some place]
  | .joined place => places.map (Option.map (moved place)) ++ [some (place ++ [.index 1])]

def run (f : Folding) : List (String × Value) → Folding × Option Fault
  | [] => (f, none)
  | (name, v) :: rest =>
    let path := Path.ofText name
    let s := f.record.store path.parts path.isListed v
    match s.result with
    | .ok placement => run ⟨s.container, recordPlace f.places placement⟩ rest
    | .error fault => (⟨s.container, f.places⟩, some fault)

def settled (f : Folding) (pairs : List (String × Value)) : List (String × Value) :=
  let current := fun (place : Option Place) (v : Value) =>
    ((place.bind f.record.atPlace?).getD v)
  (pairs.zip (f.places ++ List.replicate (pairs.length - f.places.length) none)).map
    fun (p, place) => (p.1, current place p.2)

end Folding

def foldPairs (pairs : List (String × Value)) : Except Fault Value :=
  match Folding.run {} pairs with
  | (f, none) => .ok f.record
  | (_, some fault) => .error fault

def settlePairs (pairs : List (String × Value)) : Except Fault Value × List (String × Value) :=
  match Folding.run {} pairs with
  | (f, none) => (.ok f.record, f.settled pairs)
  | (f, some fault) => (.error fault, f.settled pairs)

end Microdata
