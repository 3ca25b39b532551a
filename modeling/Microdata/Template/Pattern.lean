import Microdata.Element
import Microdata.Text.Split
import Microdata.Vocabulary
import Microdata.Value.Basic
set_option autoImplicit false

/-!
Patterns: the elements of a template with what their annotations say. `Pattern.analyze` reads the
annotations once; the children of a pattern are those of its element, in the same order, each with
the text behind it.
-/

namespace Microdata

structure Shape where
  element : Element
  path : String
  property : Option String
  isArray : Bool
  isScope : Bool
  type : Option String
  filter : Option String
  constraint : Option String
  /-- The attributes that hold placeholders. -/
  placeholders : List (String × String)

inductive Pattern where
  | mk (shape : Shape) (children : List (Pattern × String))

namespace Pattern

def shape : Pattern → Shape
  | mk s _ => s

def children : Pattern → List (Pattern × String)
  | mk _ c => c

def path (p : Pattern) : String := p.shape.path

def stepName (e : Element) : String := if e.tagName = "" then "#node" else e.tagName

def nonempty? (s : String) : Option String := if s = "" then none else some s

def shapeOf (v : Vocabulary) (path : String) (e : Element) : Shape :=
  let written := nonempty? (e.get v.binding)
  let marked := written.bind (withoutSuffix? v.arraySuffix)
  { element := e
    path := path
    property := if marked.isSome then marked else written
    isArray := marked.isSome
    isScope := e.has v.scope
    type := nonempty? (e.get v.type)
    filter := nonempty? (e.get v.scopeFilter)
    constraint := nonempty? (e.get v.constraint)
    placeholders := e.attributes.filter fun p => Text.includes ['$', '\x7b'] p.2.toList }

/-- The path of a child: its name, numbered among the siblings of that name. -/
def childPath (path name : String) (number : Nat) : String :=
  path ++ "/" ++ name ++ "[" ++ toString number ++ "]"

mutual
def analyzeAt (v : Vocabulary) (path : String) : Element → Pattern
  | .mk tag attributes text children =>
    .mk (shapeOf v path (.mk tag attributes text children)) (analyzeChildren v path [] children)

/-- The patterns of children; `seen` holds the names of the siblings before them. -/
def analyzeChildren (v : Vocabulary) (path : String) (seen : List String) :
    List Child → List (Pattern × String)
  | [] => []
  | (e, tail) :: rest =>
    let name := stepName e
    (analyzeAt v (childPath path name (seen.count name + 1)) e, tail) ::
      analyzeChildren v path (name :: seen) rest
end

def analyze (v : Vocabulary) (e : Element) : Pattern := analyzeAt v (stepName e) e

mutual
def walk : Pattern → List Pattern
  | .mk shape children => .mk shape children :: walkAll children

def walkAll : List (Pattern × String) → List Pattern
  | [] => []
  | (p, _) :: rest => p.walk ++ walkAll rest
end

theorem mem_walkAll {q : Pattern} (children : List (Pattern × String)) :
    q ∈ walkAll children ↔ ∃ p ∈ children, q ∈ p.1.walk := by
  induction children with
  | nil => simp [walkAll]
  | cons c rest ih => simp [walkAll, ih]

mutual
theorem exists_of_mem_walk (v : Vocabulary) (path : String) (e : Element) {q : Pattern}
    (h : q ∈ (analyzeAt v path e).walk) : ∃ place inner, q = analyzeAt v place inner := by
  match e with
  | .mk tag attributes text children =>
    rw [analyzeAt, walk, List.mem_cons] at h
    rcases h with rfl | h
    · exact ⟨path, .mk tag attributes text children, by rw [analyzeAt]⟩
    · exact exists_of_mem_walkAll v path [] children h

theorem exists_of_mem_walkAll (v : Vocabulary) (path : String) (seen : List String)
    (cs : List Child) {q : Pattern} (h : q ∈ walkAll (analyzeChildren v path seen cs)) :
    ∃ place inner, q = analyzeAt v place inner := by
  match cs with
  | [] => simp [analyzeChildren, walkAll] at h
  | (e, _) :: rest =>
    rw [analyzeChildren, walkAll, List.mem_append] at h
    rcases h with h | h
    · exact exists_of_mem_walk v _ e h
    · exact exists_of_mem_walkAll v path _ rest h
end

theorem shape_analyzeAt (v : Vocabulary) (path : String) (e : Element) :
    (analyzeAt v path e).shape = shapeOf v path e := by
  cases e
  rw [analyzeAt, shape]

theorem children_analyzeAt (v : Vocabulary) (path : String) (e : Element) :
    (analyzeAt v path e).children = analyzeChildren v path [] e.children := by
  cases e
  rw [analyzeAt, children]
  rfl

theorem map_analyzeChildren (v : Vocabulary) (path : String) (seen : List String)
    (cs : List Child) :
    (analyzeChildren v path seen cs).map (fun c => (c.1.shape.element, c.2)) = cs := by
  induction cs generalizing seen with
  | nil => rw [analyzeChildren, List.map_nil]
  | cons c rest ih =>
    obtain ⟨e, tail⟩ := c
    simp only [analyzeChildren, List.map_cons, ih, shape_analyzeAt, shapeOf]

def isGated (p : Pattern) : Bool := p.shape.filter.isSome || p.shape.constraint.isSome

/-- An entry that is left out if there is nothing to say. -/
def entry? (name : String) (value : Option String) : Fields :=
  match value with
  | some s => [(.text name, .text s)]
  | none => []

def flag? (name : String) (b : Bool) : Fields := if b then [(.text name, .bool true)] else []

def shapeOutline (s : Shape) : Fields :=
  [(.text "path", .text s.path), (.text "tag", .text s.element.tagName)] ++
    entry? "binding" s.property ++ flag? "array" s.isArray ++ flag? "scope" s.isScope ++
    entry? "type" s.type ++ entry? "scope_filter" s.filter ++ entry? "constraint" s.constraint ++
    (if s.placeholders.isEmpty then []
      else [(.text "attributes",
        .record (s.placeholders.map fun (n, v) => (Key.text n, Value.text v)))])

mutual
def outline : Pattern → Value
  | .mk shape children =>
    .record (shapeOutline shape ++
      if children.isEmpty then [] else [(.text "children", .list (outlines children))])

def outlines : List (Pattern × String) → List Value
  | [] => []
  | (p, _) :: rest => p.outline :: outlines rest
end

end Pattern
end Microdata
