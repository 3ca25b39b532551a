import Microdata.Text.Blank
import Microdata.Text.Split
import Microdata.Text.Width
set_option autoImplicit false

/-!
Lines on a console: controls that would move the writing position are left out, and tabs reach to
the next column whose number is a multiple of eight. Lines that are too wide are broken between
words. A word that is too wide for any line is cut into pieces by `folded`, and only its beginning
is shown by `clipped`.
-/

namespace Microdata.Console

def columns : Nat := 2000

/-- The bell, and the controls that move back, down or to the start of a line. -/
def isMovement (c : Char) : Bool :=
  let n := c.toNat
  n == 7 || n == 8 || n == 11 || n == 12 || n == 13

def visible (s : String) : List Char := s.toList.filter fun c => !isMovement c

def expandTabs : (column : Nat) → List Char → List Char
  | _, [] => []
  | column, c :: rest =>
    if c == '\t' then
      let n := 8 - column % 8
      List.replicate n ' ' ++ expandTabs (column + n) rest
    else c :: expandTabs (column + Text.columns c) rest

def spread (s : String) : List (List Char) := (Text.split '\n' (visible s)).map (expandTabs 0)

def lines (s : String) : List String := (spread s).map String.ofList

def bodies : List Char → List (List Char)
  | [] => []
  | c :: rest =>
    let more := (rest.takeWhile fun d => !Text.isBlank d).length
    let gap := ((rest.drop more).takeWhile Text.isBlank).length
    (c :: rest.take (more + gap)) :: bodies (rest.drop (more + gap))
termination_by cs => cs.length
decreasing_by simp only [List.length_drop, List.length_cons]; omega

/-- The words of a line, of which the first has the blanks in front of it, too. -/
def words (cs : List Char) : List (List Char) :=
  match bodies (cs.dropWhile Text.isBlank) with
  | [] => []
  | word :: rest => (cs.takeWhile Text.isBlank ++ word) :: rest

/-- The pieces of a text that fit into some columns; `piece` is the one begun, in reverse, and
`used` what it takes. -/
def chop (width used : Nat) (piece : List Char) : List Char → List (List Char)
  | [] => [piece.reverse]
  | c :: rest =>
    if width < used + Text.columns c then
      piece.reverse :: chop width (Text.columns c) [c] rest
    else chop width (used + Text.columns c) (c :: piece) rest

def dropBlanks (cs : List Char) : List Char := (cs.reverse.dropWhile Text.isBlank).reverse

/-- Lines of words; `line` is the one begun, and `used` what it takes. A word that does not fit
begins a new line, and one that is wider than any line is cut if this is wanted. -/
def fill (cutting : Bool) (width : Nat) (line : List Char) (used : Nat) :
    List (List Char) → List (List Char)
  | [] => [line]
  | word :: rest =>
    let need := Text.width (dropBlanks word)
    if used + need ≤ width then fill cutting width (line ++ word) (used + Text.width word) rest
    else
      let full := if line.isEmpty then [] else [line]
      if cutting && width < need then
        let pieces := chop width 0 [] word
        let last := pieces.getLastD []
        full ++ pieces.dropLast ++ fill cutting width last (Text.width last) rest
      else full ++ fill cutting width word (Text.width word) rest

def broken (cutting : Bool) (width : Nat) (line : List Char) : List (List Char) :=
  match words line with
  | [] => [line]
  | ws => fill cutting width [] 0 ws

def folded (width : Nat) (s : String) : List String :=
  (spread s).flatMap fun line => (broken true width line).map String.ofList

/-- The beginning of a text that takes some columns; half of a wide character is a blank. -/
def beginning : (width : Nat) → List Char → List Char
  | _, [] => []
  | width, c :: rest =>
    if width == 0 then []
    else if width < Text.columns c then [' ']
    else c :: beginning (width - Text.columns c) rest

/-- A line without blanks that stand behind its last column, and with three dots for what else
stands there. -/
def clip (width : Nat) (line : List Char) : List Char :=
  let blanks := line.length - (dropBlanks line).length
  let line := line.take (line.length - min blanks (line.length - width))
  if width < Text.width line then beginning (width - 1) line ++ ['…'] else line

def clipped (width : Nat) (s : String) : List String :=
  (spread s).flatMap fun line => (broken false width line).map fun l => String.ofList (clip width l)

def trimEnd (s : String) : String := String.ofList (dropBlanks s.toList)

def dropTrailing (ls : List String) : List String :=
  (ls.reverse.dropWhile (· == "")).reverse

def settle (ls : List String) : List String := dropTrailing (ls.map trimEnd)

end Microdata.Console
