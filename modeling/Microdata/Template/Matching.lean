import Microdata.Template.Pattern
import Microdata.Reference
set_option autoImplicit false

namespace Microdata

def trimEnd (drop : List Char) (s : String) : String :=
  String.ofList ((s.toList.reverse.dropWhile drop.contains).reverse)

/-- The type of a record behind its context, if it has both. -/
def qualifiedType? (separator : String) (record : Value) : Option String :=
  match record.get? typeKey, record.get? contextKey with
  | some type, some context =>
    if type.isPresent && context.isPresent then
      some (trimEnd separator.toList context.display ++ separator ++ type.display)
    else none
  | _, _ => none

def checkType (record : Value) : Except Fault Unit :=
  match record.get? typeKey, record.get? contextKey with
  | some type, some context =>
    if type.isPresent && context.isPresent then do
      let _ ← context.shown
      let _ ← type.shown
      .ok ()
    else .ok ()
  | _, _ => .ok ()

namespace Pattern

def rootIndex? (separator : String) (record : Value) (roots : List Pattern) : Option Nat :=
  let untyped := roots.findIdx? fun r => r.shape.type.isNone
  match qualifiedType? separator record with
  | none => untyped
  | some type =>
    match roots.findIdx? fun r => r.shape.type == some type with
    | some i => some i
    | none => if roots.any fun r => r.shape.type.isSome then none else untyped

def rootFor? (separator : String) (record : Value) (roots : List Pattern) : Option Pattern :=
  (rootIndex? separator record roots).bind fun i => roots[i]?

end Pattern
end Microdata
