import Microdata.Fault
import Microdata.Number.Digits
import Microdata.Text.Split
set_option autoImplicit false

namespace Microdata.Location

def cutAt (c : Char) (cs : List Char) : List Char × List Char :=
  (Text.cut? c cs).getD (cs, [])

def isOctet (cs : List Char) : Bool :=
  !cs.isEmpty && cs.length ≤ 3 && cs.all Char.isDigit && (cs == ['0'] || cs.head? != some '0') &&
    Numeric.ofDigits 10 cs ≤ 255

def isShortAddress (cs : List Char) : Bool :=
  let parts := Text.split '.' cs
  parts.length == 4 && parts.all isOctet

def isGroup (cs : List Char) : Bool :=
  !cs.isEmpty && cs.length ≤ 4 && cs.all Numeric.isHexDigit

/-- The groups of an address with colons between them. A last one that is an address of the short
form counts for two. -/
def groups (cs : List Char) : List (List Char) :=
  let parts := Text.split ':' cs
  if isShortAddress (parts.getLastD []) then parts.dropLast ++ [['0'], ['0']] else parts

def side? (gs : List (List Char)) : Option Nat :=
  if gs == [[]] then some 0 else if gs.all isGroup then some gs.length else none

/-- Whether groups make up an address: eight of them, or fewer where an empty one between two
others stands for those that are left out. -/
def isGroups (gs : List (List Char)) : Bool :=
  let n := (gs.drop 1).findIdx List.isEmpty + 1
  if n + 1 < gs.length then
    match side? (gs.take n), side? (gs.drop (n + 1)) with
    | some before, some after => before + after < 8
    | _, _ => false
  else gs.length == 8 && gs.all isGroup

def isLongAddress (cs : List Char) : Bool :=
  match Text.cut? '%' cs with
  | some (address, zone) => !zone.isEmpty && !zone.contains '%' && isGroups (groups address)
  | none => isGroups (groups cs)

def isFutureAddress (cs : List Char) : Bool :=
  let (version, rest) := cutAt '.' (cs.drop 1)
  !version.isEmpty && version.all Numeric.isHexDigit && !rest.isEmpty

def checkHost (cs : List Char) : Except Fault Unit :=
  if cs.head? == some 'v' then
    if isFutureAddress cs then .ok () else .error .futureHost
  else if isShortAddress cs then .error .shortHost
  else if isLongAddress cs then .ok ()
  else .error (.unknownHost (String.ofList cs))

/-- The host of an authority in which there are brackets: nothing but a port may stand beside the
brackets, and a user in front of them. -/
def bracketedHost (authority : List Char) : Except Fault (List Char) :=
  let place := match Text.cutLast? '@' authority with
    | some (_, rest) => rest
    | none => authority
  match Text.cut? '[' place with
  | some (before, inside) =>
    let (host, port) := cutAt ']' inside
    if before.isEmpty && (port.isEmpty || port.head? == some ':') then .ok host
    else .error .bracketedHost
  | none => .ok (cutAt ':' place).1

end Microdata.Location
