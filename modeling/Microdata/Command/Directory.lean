import Microdata.Text.Quoted
import Microdata.Text.Split
import Microdata.Text.Lowercase
set_option autoImplicit false

namespace Microdata

structure FilePath where
  root : String := ""
  parts : List String := []
  deriving DecidableEq, Repr

namespace FilePath

/-- Two slashes at the beginning differ from one, three and more do not. -/
def ofText (s : String) : FilePath :=
  let cs := s.toList
  let slashes := (cs.takeWhile (· == '/')).length
  { root := if slashes = 0 then "" else if slashes = 2 then "//" else "/"
    parts := ((Text.split '/' cs).map String.ofList).filter fun p => p != "" && p != "." }

def text (p : FilePath) : String :=
  if p.root = "" && p.parts.isEmpty then "." else p.root ++ "/".intercalate p.parts

/-- The end of the last part from its last point on, unless the point is at either end of it; in
small letters. -/
def extension (p : FilePath) : String :=
  match Text.cutLast? '.' (p.parts.getLast?.getD "").toList with
  | some (before, after) =>
    if before.isEmpty || after.isEmpty then "" else Text.lower (String.ofList ('.' :: after))
  | none => ""

end FilePath

inductive FileProblem where
  | missing
  | directory
  | notDirectory
  | longName
  | unusable
  deriving DecidableEq, Repr

def FileProblem.message (problem : FileProblem) (p : FilePath) : String :=
  let numbered (text : String) := "[Errno " ++ text ++ ": " ++ Text.quoted p.text
  match problem with
  | missing => numbered "2] No such file or directory"
  | directory => numbered "21] Is a directory"
  | notDirectory => numbered "20] Not a directory"
  | longName => numbered "36] File name too long"
  | unusable => "embedded null byte"

structure Directory where
  files : List (List String × String) := []

namespace Directory

def file? (d : Directory) (parts : List String) : Option String :=
  (d.files.find? fun f => f.1 == parts).map (·.2)

def isDirectory (d : Directory) (parts : List String) : Bool :=
  parts.isEmpty || d.files.any fun f => parts.isPrefixOf f.1 && parts.length < f.1.length

def locate (d : Directory) (place : List String) : List String → Except FileProblem (List String)
  | [] => .ok place
  | part :: rest =>
    if (d.file? place).isSome then .error .notDirectory
    else if !d.isDirectory place then .error .missing
    else if 255 < part.utf8ByteSize then .error .longName
    else if part = ".." then
      if place.isEmpty then .error (if rest.isEmpty then .directory else .missing)
      else d.locate place.dropLast rest
    else d.locate (place ++ [part]) rest

/-- Where a path leads to; nothing outside of the directory is in reach. -/
def resolve (d : Directory) (p : FilePath) : Except FileProblem (List String) :=
  if p.text.toList.contains '\x00' then .error .unusable
  else if p.root = "" then d.locate [] p.parts
  else .error (if p.parts.isEmpty then .directory else .missing)

def read (d : Directory) (p : FilePath) : Except FileProblem String := do
  let parts ← d.resolve p
  if d.isDirectory parts then .error .directory
  else match d.file? parts with
    | some text => .ok text
    | none => .error .missing

def write (d : Directory) (p : FilePath) (text : String) : Except FileProblem Directory := do
  let parts ← d.resolve p
  if d.isDirectory parts then .error .directory
  else .ok ⟨(d.files.filter fun f => f.1 != parts) ++ [(parts, text)]⟩

end Directory
end Microdata
