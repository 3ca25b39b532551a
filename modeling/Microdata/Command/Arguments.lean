import Microdata.Pairs
import Microdata.Text.Lowercase
import Microdata.Text.Split
set_option autoImplicit false

namespace Microdata.Command

inductive OptionKind where
  | flag
  | text
  | choice (words : List String)

structure OptionRule where
  name : String
  letter : Option Char := none
  kind : OptionKind := .text

structure Signature where
  options : List OptionRule
  least : Nat := 0
  most : Nat := least

structure Given where
  options : List (String × String) := []
  arguments : List String := []

namespace Given

def put (g : Given) (name value : String) : Given :=
  { g with options := assign name value g.options }

def add (g : Given) (arguments : List String) : Given :=
  { g with arguments := g.arguments ++ arguments }

def get? (g : Given) (name : String) : Option String := lookup? name g.options

def has (g : Given) (name : String) : Bool := (g.get? name).isSome

end Given

namespace OptionRule

def isFlag (o : OptionRule) : Bool :=
  match o.kind with
  | .flag => true
  | _ => false

/-- Small letters, by which words are compared; the long s is one. -/
def folded (s : String) : String :=
  Text.lower (String.ofList (s.toList.map fun c => if c == 'ſ' then 's' else c))

def value? (o : OptionRule) (text : String) : Option String :=
  match o.kind with
  | .choice words => words.find? fun w => w == folded text
  | _ => some text

end OptionRule

inductive Reading where
  | argument
  | stop
  | long (name : String) (value : Option String)
  | letters (cs : List Char)

def reading (argument : String) : Reading :=
  match argument.toList with
  | ['-', '-'] => .stop
  | '-' :: '-' :: cs =>
    match Text.cut? '=' cs with
    | some (name, value) => .long (String.ofList name) (some (String.ofList value))
    | none => .long (String.ofList cs) none
  | '-' :: c :: cs => .letters (c :: cs)
  | _ => .argument

/-- What letters give, and the option that still needs a value. -/
def readLetters (rules : List OptionRule) (g : Given) :
    List Char → Option (Given × Option OptionRule)
  | [] => some (g, none)
  | c :: rest =>
    match rules.find? fun o => o.letter == some c with
    | none => none
    | some o =>
      if o.isFlag then readLetters rules (g.put o.name "") rest
      else if rest.isEmpty then some (g, some o)
      else some (g.put o.name (String.ofList rest), none)

/-- What arguments give. If options must come first, all arguments from the first one that is no
option on are left as they are. -/
def readArguments (rules : List OptionRule) (optionsFirst : Bool) (g : Given) :
    List String → Option Given
  | [] => some g
  | argument :: rest =>
    match reading argument with
    | .stop => some (g.add rest)
    | .argument =>
      if optionsFirst then some (g.add (argument :: rest))
      else readArguments rules optionsFirst (g.add [argument]) rest
    | .long name value =>
      match rules.find? fun o => o.name == name with
      | none => none
      | some o =>
        match o.isFlag, value, rest with
        | true, some _, _ => none
        | true, none, rest => readArguments rules optionsFirst (g.put name "") rest
        | false, some v, rest => readArguments rules optionsFirst (g.put name v) rest
        | false, none, v :: rest => readArguments rules optionsFirst (g.put name v) rest
        | false, none, [] => none
    | .letters cs =>
      match readLetters rules g cs with
      | none => none
      | some (g, none) => readArguments rules optionsFirst g rest
      | some (g, some o) =>
        match rest with
        | v :: rest => readArguments rules optionsFirst (g.put o.name v) rest
        | [] => none

/-- The values that were given, each one of those that its option takes. -/
def settle (rules : List OptionRule) : List (String × String) → Option (List (String × String))
  | [] => some []
  | (name, text) :: rest => do
    let value ← match rules.find? fun o => o.name == name with
      | some o => o.value? text
      | none => some text
    some ((name, value) :: (← settle rules rest))

namespace Signature

def read? (s : Signature) (arguments : List String) : Option Given := do
  let g ← readArguments s.options false {} arguments
  let options ← settle s.options g.options
  if s.least ≤ g.arguments.length && g.arguments.length ≤ s.most then
    some ⟨options, g.arguments⟩
  else none

end Signature
end Microdata.Command
