import Microdata.Number.Integer
import Microdata.Text.Base64
import Microdata.Text.Lowercase
import Microdata.Value.Basic
import Microdata.Yaml.Kind
import Microdata.Yaml.Token
set_option autoImplicit false

namespace Microdata.Yaml

def withoutLines (s : String) : String := String.ofList (s.toList.filter (· != '_'))

def isNegative (s : String) : Bool := s.toList.head? == some '-'

def sumSixtieths (factor : Int) : List Int → Int
  | [] => 0
  | part :: rest => part * factor + sumSixtieths (60 * factor) rest

def readUnsigned (body : String) : Except Fault Int :=
  match body.toList with
  | [] => .error .emptyText
  | ['0'] => .ok 0
  | '0' :: 'b' :: rest => Numeric.readInteger 2 (String.ofList rest)
  | '0' :: 'x' :: rest => Numeric.readInteger 16 (String.ofList rest)
  | '0' :: _ => Numeric.readInteger 8 body
  | cs =>
    if cs.contains ':' then do
      let parts ← (Text.split ':' cs).mapM fun part => Numeric.readInteger 10 (String.ofList part)
      .ok (sumSixtieths 1 parts.reverse)
    else Numeric.readInteger 10 body

def readInt (s : String) : Except Fault Int := do
  let s := withoutLines s
  let n ← readUnsigned (String.ofList (unsigned s.toList))
  .ok (if isNegative s then -n else n)

def readDecimal (s : String) : Except Fault Binary64 :=
  match Numeral.read? s with
  | some n => .ok n.nearest
  | none => .error (.badDecimal s)

/-- The sum of parts to the base of sixty, the last part first, each step rounded. -/
def addSixtieths (sum : Binary64) (factor : Int) : List Binary64 → Except Fault Binary64
  | [] => .ok sum
  | part :: rest =>
    match Binary64.ofInt? factor with
    | none => .error .integerTooLarge
    | some f => addSixtieths (sum.add (part.mul f)) (60 * factor) rest

def readMagnitude (body : String) : Except Fault Binary64 :=
  if body = ".inf" then .ok (.inf false)
  else if body = ".nan" then .ok .nan
  else if body.toList.contains ':' then do
    let parts ← (Text.split ':' body.toList).mapM fun part => readDecimal (String.ofList part)
    addSixtieths .zero 1 parts.reverse
  else readDecimal body

def readFloat (s : String) : Except Fault Binary64 := do
  let s := Text.lower (withoutLines s)
  if s = "" then .error .emptyText
  else
    let x ← readMagnitude (String.ofList (unsigned s.toList))
    .ok (if isNegative s then x.neg else x)

def readBool (s : String) : Except Fault Bool :=
  let word := Text.lower s
  if trueTexts.contains word then .ok true
  else if falseTexts.contains word then .ok false
  else .error (.unknownWord word)

def scalarValue (kind : Kind) (text : String) : Except ReadError Value :=
  match kind with
  | .null => .ok .none
  | .bool => orFault ((readBool text).map .bool)
  | .int => orFault ((readInt text).map .int)
  | .float => orFault ((readFloat text).map .float)
  | .date => orFault ((readTimestamp text).map .date)
  | .text => .ok (.text text)
  | .bytes =>
    if text.toList.all fun c => c.toNat < 128 then
      need ((Text.base64? text.toList).map .bytes)
    else .error .malformed
  | _ => .error .malformed

end Microdata.Yaml
