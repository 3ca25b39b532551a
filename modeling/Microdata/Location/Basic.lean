import Microdata.Location.Host
import Microdata.Text.Lowercase
set_option autoImplicit false

namespace Microdata

structure Location where
  scheme : List Char
  authority : List Char
  path : List Char
  parameters : List Char
  query : List Char
  fragment : List Char

namespace Location

def schemes (names : List String) : List (List Char) := names.map String.toList

def relativeSchemes : List (List Char) :=
  schemes ["", "ftp", "http", "gopher", "nntp", "imap", "wais", "file", "https", "shttp", "mms",
    "prospero", "rtsp", "rtsps", "rtspu", "sftp", "svn", "svn+ssh", "ws", "wss"]

def authoritySchemes : List (List Char) :=
  schemes ["", "ftp", "http", "gopher", "nntp", "telnet", "imap", "wais", "file", "mms", "https",
    "shttp", "snews", "prospero", "rtsp", "rtsps", "rtspu", "rsync", "svn", "svn+ssh", "sftp",
    "nfs", "git", "git+ssh", "ws", "wss"]

def parameterSchemes : List (List Char) :=
  schemes ["", "ftp", "hdl", "prospero", "http", "imap", "https", "shttp", "rtsp", "rtsps",
    "rtspu", "sip", "sips", "mms", "sftp", "tel"]

def isSchemeChar (c : Char) : Bool := c.isAlphanum || c == '+' || c == '-' || c == '.'

/-- The scheme of a location in lower case, and the rest; without one, the scheme given. -/
def cutScheme (scheme cs : List Char) : List Char × List Char :=
  match Text.cut? ':' cs with
  | some (name, rest) =>
    if name.head?.any Char.isAlpha && name.all isSchemeChar then (name.map Char.toLower, rest)
    else (scheme, cs)
  | none => (scheme, cs)

def cutAuthority (cs : List Char) : List Char × List Char :=
  match cs with
  | '/' :: '/' :: rest =>
    let inside (c : Char) := !(c == '/' || c == '?' || c == '#')
    (rest.takeWhile inside, rest.dropWhile inside)
  | _ => ([], cs)

/-- Characters that stand for others, among them one that separates the parts of a location. -/
def disguises : List Nat :=
  [0x2047, 0x2048, 0x2049, 0x2100, 0x2101, 0x2105, 0x2106, 0x2a74, 0xfe13, 0xfe16, 0xfe55, 0xfe56,
    0xfe5f, 0xfe6b, 0xff03, 0xff0f, 0xff1a, 0xff1f, 0xff20]

def checkAuthority (cs : List Char) : Except Fault Unit := do
  if cs.contains '[' != cs.contains ']' then .error .bracketedHost
  else if cs.contains '[' then checkHost (← bracketedHost cs)
  if cs.any fun c => disguises.contains c.toNat then
    .error (.disguisedAuthority (String.ofList cs))

def cutParameters (path : List Char) : List Char × List Char :=
  let (directory, last) := match Text.cutLast? '/' path with
    | some (before, after) => (before ++ ['/'], after)
    | none => ([], path)
  match Text.cut? ';' last with
  | some (before, after) => (directory ++ before, after)
  | none => (path, [])

/-- What counts of a location as it is written: no blanks and controls in front of it, and no tabs
and line ends in it. -/
def cleaned (cs : List Char) : List Char :=
  (cs.dropWhile fun c => c.toNat ≤ 32).filter fun c => !(c == '\t' || c == '\r' || c == '\n')

def read (scheme cs : List Char) : Except Fault Location := do
  let cs := cleaned cs
  let (scheme, rest) := cutScheme scheme cs
  let (authority, rest) := cutAuthority rest
  checkAuthority authority
  let (rest, fragment) := cutAt '#' rest
  let (path, query) := cutAt '?' rest
  let (path, parameters) :=
    if parameterSchemes.contains scheme then cutParameters path else (path, [])
  .ok ⟨scheme, authority, path, parameters, query, fragment⟩

def marked (mark : Char) (part : List Char) : List Char :=
  if part.isEmpty then [] else mark :: part

def text (l : Location) : List Char :=
  let path := l.path ++ marked ';' l.parameters
  let rooted := if path.isEmpty || path.head? == some '/' then path else '/' :: path
  let path :=
    if !l.authority.isEmpty ||
        (!l.scheme.isEmpty && authoritySchemes.contains l.scheme &&
          !"//".toList.isPrefixOf path) then
      '/' :: '/' :: l.authority ++ rooted
    else path
  (if l.scheme.isEmpty then [] else l.scheme ++ [':']) ++ path ++ marked '?' l.query ++
    marked '#' l.fragment

/-- The segments of a path without the steps to the same and to the parent directory; `done` holds
those passed, the last one first. -/
def settle (done : List (List Char)) : List (List Char) → List (List Char)
  | [] => done.reverse
  | segment :: rest =>
    if segment == ['.', '.'] then settle done.tail rest
    else if segment == ['.'] then settle done rest
    else settle (segment :: done) rest

def dropInnerEmpty : List (List Char) → List (List Char)
  | [] => []
  | first :: rest =>
    match rest.getLast? with
    | none => [first]
    | some last => first :: rest.dropLast.filter (fun s => !s.isEmpty) ++ [last]

def joinPaths (base path : List Char) : List Char :=
  let parts := Text.split '/' base
  let parts := if parts.getLast? == some [] then parts else parts.dropLast
  let segments :=
    if path.head? == some '/' then Text.split '/' path
    else dropInnerEmpty (parts ++ Text.split '/' path)
  let settled := settle [] segments
  let last := segments.getLastD []
  let settled := if last == ['.'] || last == ['.', '.'] then settled ++ [[]] else settled
  let joined := Text.join '/' settled
  if joined.isEmpty then ['/'] else joined

def resolveParts (base target : Location) (written : List Char) : List Char :=
  if target.scheme != base.scheme || !relativeSchemes.contains target.scheme then written
  else
    let named := authoritySchemes.contains target.scheme
    if named && !target.authority.isEmpty then target.text
    else
      let target := if named then { target with authority := base.authority } else target
      if target.path.isEmpty && target.parameters.isEmpty then
        text { target with
          path := base.path
          parameters := base.parameters
          query := if target.query.isEmpty then base.query else target.query }
      else text { target with path := joinPaths base.path target.path }

def resolve (base target : String) : Except Fault String :=
  if base = "" then .ok target
  else if target = "" then .ok base
  else do
    let b ← read [] base.toList
    let t ← read b.scheme target.toList
    .ok (String.ofList (resolveParts b t target.toList))

def withoutFragment (location : String) : Except Fault String :=
  if location.toList.contains '#' then do
    let l ← read [] location.toList
    .ok (String.ofList ({ l with fragment := [] } : Location).text)
  else .ok location

end Location
end Microdata
