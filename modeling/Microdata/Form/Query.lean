import Microdata.Number.Digits
import Microdata.Text.Split
import Microdata.Text.Utf8
set_option autoImplicit false

namespace Microdata.Query

def bytes : List Char → List Nat
  | [] => []
  | '%' :: a :: b :: rest =>
    match Numeric.hexValue? a, Numeric.hexValue? b with
    | some m, some n => (16 * m + n) :: bytes rest
    | _, _ => '%'.toNat :: bytes (a :: b :: rest)
  | c :: rest => c.toNat :: bytes rest

/-- A text without its escapes. The bytes of a character stand next to one another: an escape does
not go on with what stood before a character beyond ASCII; `run` holds the ASCII text being read. -/
def unescape (run : List Char) : List Char → List Char
  | [] => Text.decodeUtf8 (bytes run)
  | c :: rest =>
    if c.toNat < 128 then unescape (run ++ [c]) rest
    else Text.decodeUtf8 (bytes run) ++ c :: unescape [] rest

def component (cs : List Char) : String :=
  String.ofList (unescape [] (cs.map fun c => if c == '+' then ' ' else c))

def pair (cs : List Char) : String × String :=
  let (name, value) := (Text.cut? '=' cs).getD (cs, [])
  (component name, component value)

/-- The pairs of a query, in order; question marks in front of it do not count. -/
def pairs (query : String) : List (String × String) :=
  ((Text.split '&' (query.toList.dropWhile (· == '?'))).filter fun cs => !cs.isEmpty).map pair

end Microdata.Query
