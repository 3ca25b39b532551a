import Microdata.Reference
import Microdata.Vocabulary
set_option autoImplicit false

/-!
The settings of a template, and their reading from a record of settings. Every accepted record gives
settings within bounds: the depth is positive and the marker is not empty.
-/

namespace Microdata

structure Config where
  base : String := ""
  selector : Option String := none
  /-- How many records may be entered on the way to a node. -/
  maxDepth : Nat := 32
  strict : Bool := false
  separator : String := "/"
  marker : Marker := .standard
  vocabulary : Vocabulary := {}

inductive ConfigProblem where
  | notMapping (kind : String)
  | unknownKey
  | booleanNumber
  | wrongKind (expected kind : String)
  | notPositive
  | emptyMarker
  | vocabularyNotMapping
  | unknownVocabularyKey
  | emptyName
  | unreadable (path reason : String)
  | invalidYaml (path : String)

def ConfigProblem.message : ConfigProblem → String
  | notMapping kind => "expected a mapping, got " ++ kind
  | unknownKey => "unknown configuration key"
  | booleanNumber => "expected an integer, got a boolean"
  | wrongKind expected kind => "expected " ++ expected ++ ", got " ++ kind
  | notPositive => "must be a positive integer"
  | emptyMarker => "must not be empty"
  | vocabularyNotMapping => "expected a mapping"
  | unknownVocabularyKey => "unknown vocabulary key"
  | emptyName => "expected a non-empty string"
  | unreadable path reason => "cannot read " ++ path ++ ": " ++ reason
  | invalidYaml path => "invalid YAML in " ++ path

structure ConfigError where
  problem : ConfigProblem
  key : Option Key := none

namespace Key

def isPresent : Key → Bool
  | none => false
  | bool b => b
  | int n => n != 0
  | float x => !x.isZero
  | text s => s != ""
  | date _ => true
  | bytes bs => !bs.isEmpty
  | tuple items => !items.isEmpty

end Key

def ConfigError.message (e : ConfigError) : String :=
  match e.key with
  | none => e.problem.message
  | some k => if k.isPresent then k.display ++ ": " ++ e.problem.message else e.problem.message

inductive SettingsError where
  | setting (e : ConfigError)
  | fault (f : Fault)

namespace SettingsError

def about (k : Key) (problem : ConfigProblem) : SettingsError :=
  match if k.isPresent then k.shown else .ok "" with
  | .ok _ => setting ⟨problem, some k⟩
  | .error f => fault f

def aboutName (k : Key) (problem : ConfigProblem) : SettingsError :=
  match k.shown with
  | .ok name => setting ⟨problem, some (.text ("vocabulary." ++ name))⟩
  | .error f => fault f

end SettingsError

namespace Vocabulary

def put? (v : Vocabulary) (name value : String) : Option Vocabulary :=
  match name with
  | "binding" => some { v with binding := value }
  | "array_suffix" => some { v with arraySuffix := value }
  | "scope" => some { v with scope := value }
  | "type" => some { v with type := value }
  | "item_id" => some { v with itemId := value }
  | "identifier" => some { v with identifier := value }
  | "scope_filter" => some { v with scopeFilter := value }
  | "constraint" => some { v with constraint := value }
  | _ => none

def override (v : Vocabulary) : Fields → Except SettingsError Vocabulary
  | [] => .ok v
  | (k, value) :: rest =>
    match k with
    | .text name =>
      match v.put? name "", value with
      | none, _ => .error (.aboutName k .unknownVocabularyKey)
      | some _, .text s =>
        if s = "" then .error (.aboutName k .emptyName)
        else ((v.put? name s).getD v).override rest
      | some _, _ => .error (.aboutName k .emptyName)
    | _ => .error (.aboutName k .unknownVocabularyKey)

def outline (v : Vocabulary) : Fields :=
  [(.text "binding", .text v.binding), (.text "array_suffix", .text v.arraySuffix),
    (.text "scope", .text v.scope), (.text "type", .text v.type),
    (.text "item_id", .text v.itemId), (.text "identifier", .text v.identifier),
    (.text "scope_filter", .text v.scopeFilter), (.text "constraint", .text v.constraint)]

end Vocabulary

namespace Config

/-- Settings as they are read, before their bounds are looked at. -/
structure Draft where
  base : String := ""
  selector : Option String := none
  maxDepth : Int := 32
  strict : Bool := false
  separator : String := "/"
  marker : String := "#"
  vocabulary : Vocabulary := {}

def wrong (expected : String) (boolean : Bool) (v : Value) : ConfigProblem :=
  match v with
  | .bool _ => if boolean then .wrongKind expected v.kindName else .booleanNumber
  | v => .wrongKind expected v.kindName

def Draft.put (d : Draft) (name : String) (value : Value) : Except SettingsError Draft :=
  let refuse (problem : ConfigProblem) : Except SettingsError Draft :=
    .error (.about (.text name) problem)
  let text (f : String → Draft) : Except SettingsError Draft :=
    match value with
    | .text s => .ok (f s)
    | v => refuse (wrong "str" false v)
  match name with
  | "base_url" => text fun s => { d with base := s }
  | "selector" => match value with
    | .text s => .ok { d with selector := some s }
    | .none => .ok { d with selector := none }
    | v => refuse (wrong "str or NoneType" false v)
  | "max_depth" => match value with
    | .int n => .ok { d with maxDepth := n }
    | v => refuse (wrong "int" false v)
  | "strict" => match value with
    | .bool b => .ok { d with strict := b }
    | v => refuse (wrong "bool" true v)
  | "type_separator" => text fun s => { d with separator := s }
  | "reference_marker" => text fun s => { d with marker := s }
  | "vocabulary" => match value with
    | .record fields => do
      let v ← Vocabulary.override {} fields
      .ok { d with vocabulary := v }
    | _ => refuse .vocabularyNotMapping
  | _ => refuse .unknownKey

def Draft.read (d : Draft) : Fields → Except SettingsError Draft
  | [] => .ok d
  | (.text name, value) :: rest => do (← d.put name value).read rest
  | (k, _) :: _ => .error (.about k .unknownKey)

def Draft.check (d : Draft) : Except SettingsError Config :=
  if d.maxDepth < 1 then .error (.about (.text "max_depth") .notPositive)
  else if h : d.marker = "" then .error (.about (.text "reference_marker") .emptyMarker)
  else
    .ok ⟨d.base, d.selector, d.maxDepth.toNat, d.strict, d.separator, ⟨d.marker, h⟩, d.vocabulary⟩

def ofValue : Value → Except SettingsError Config
  | .record fields => do (← Draft.read {} fields).check
  | v => .error (.setting ⟨.notMapping v.kindName, none⟩)

/-- The settings as a record. -/
def outline (c : Config) : Fields :=
  [(.text "base_url", .text c.base),
    (.text "selector", match c.selector with
      | some s => .text s
      | none => .none),
    (.text "max_depth", .int c.maxDepth), (.text "strict", .bool c.strict),
    (.text "type_separator", .text c.separator), (.text "reference_marker", .text c.marker.text),
    (.text "vocabulary", .record c.vocabulary.outline)]

/-- A record of settings with others in their places; an absent value changes nothing. The values
are not looked at. -/
def replaced (settings : Fields) : List (String × Value) → Except Fault Fields
  | [] => .ok settings
  | (_, .none) :: rest => replaced settings rest
  | (name, v) :: rest =>
    if (settings.get? name).isSome then replaced (settings.put name v) rest
    else .error (.unknownSetting name)

def withOverrides (c : Config) (selector base : Option String) : Config :=
  { c with
    selector := if selector.isSome then selector else c.selector
    base := base.getD c.base }

end Config
end Microdata
