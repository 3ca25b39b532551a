import Microdata.Console.Emoji.Names
import Microdata.Text.Blank
import Microdata.Text.Lowercase
set_option autoImplicit false

namespace Microdata.Console.Emoji

def pairsOf : List String → List (String × String)
  | name :: picture :: rest => (name, picture) :: pairsOf rest
  | _ => []

def plain : List (String × String) :=
  [namesAtoE, namesFtoL, namesMtoR, namesStoZ].flatMap fun s => pairsOf (Text.words s)

def toned : List (String × String) := pairsOf (Text.words tonedNames)

/-- How the name of a picture with a tone of skin ends, and the mark of the tone. -/
def tones : List (String × Char) :=
  [("_medium-light_skin_tone", '🏼'), ("_medium-dark_skin_tone", '🏾'), ("_light_skin_tone", '🏻'),
    ("_medium_skin_tone", '🏽'), ("_dark_skin_tone", '🏿')]

def variants : List (String × Char) := [("-text", '\ufe0e'), ("-emoji", '\ufe0f')]

def cutEnd? (ends : List (String × Char)) (cs : List Char) : Option (List Char × Char) :=
  ends.findSome? fun e =>
    let n := e.1.length
    if n ≤ cs.length && e.1.toList.isSuffixOf cs then some (cs.take (cs.length - n), e.2) else none

def find? (table : List (String × String)) (cs : List Char) : Option String :=
  let name := String.ofList cs
  (table.find? fun e => e.1 == name).map (·.2)

/-- A picture with a tone, which stands behind its first character in the place of a variant. -/
def withTone (tone : Char) : List Char → List Char
  | c :: '\ufe0f' :: rest => c :: tone :: rest
  | c :: rest => c :: tone :: rest
  | [] => []

def picture? (name : List Char) : Option (List Char) :=
  match find? plain name, find? toned name with
  | some s, _ => some s.toList
  | none, some s => some s.toList
  | none, none =>
    match cutEnd? tones name with
    | some (base, tone) => (find? toned base).map fun s => withTone tone s.toList
    | none => none

def lowered (cs : List Char) : List Char := (Text.lower (String.ofList cs)).toList

def meaning? (body : List Char) : Option (List Char) :=
  match cutEnd? variants body with
  | some (name, variant) => (picture? (lowered name)).map (· ++ [variant])
  | none => picture? (lowered body)

/-- The text with pictures in the place of their codes. Two colons with no blank between them make a
code, whether it stands for a picture or not. -/
def replace : List Char → List Char
  | [] => []
  | c :: rest =>
    if c == ':' then
      let body := rest.takeWhile fun d => d != ':' && !Text.isBlank d
      if (rest.drop body.length).head? == some ':' then
        (meaning? body).getD (':' :: body ++ [':']) ++ replace (rest.drop (body.length + 1))
      else c :: replace rest
    else c :: replace rest
termination_by cs => cs.length
decreasing_by all_goals simp only [List.length_drop, List.length_cons]; omega

end Microdata.Console.Emoji
