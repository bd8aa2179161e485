import ObjectPath.Declaration.SourceGrammar
import ObjectPath.Method

/-!
# Types in source texts

The type of a field, of a parameter or of a result as it is written in a source item. Only its
outermost form matters: whether it is a path, and then what its last name is, or whether it is
one of the forms that do not name an owned type. The receiver of a function is read from its
text as well.
-/

namespace ObjectPath

/-- A type as it is written. -/
structure SourceType where
  text : String
deriving DecidableEq

/-- The outermost form of a written type. -/
inductive TypeForm where
  | path (lastName : String)
  | reference
  | implementer
  | traitObject
  | inferred
  | other
deriving DecidableEq

/-- The outermost form of a type that was read. -/
def TypeShape.form : TypeShape → TypeForm
  | path shape => .path shape.lastName
  | bounds _ _ => .traitObject
  | reference => .reference
  | implementer => .implementer
  | inferred => .inferred
  | other => .other

namespace SourceType

/-- The type without blanks and comments. -/
def compact (t : SourceType) : String :=
  ((SourceToken.ofText? t.text).map SourceToken.compact).getD t.text

/-- The outermost form. A text that is no type has none of the forms that matter. -/
def form (t : SourceType) : TypeForm :=
  match Reading.whole (Reading.type true) t.text with
  | .ok (shape, _) => shape.form
  | .error _ => .other

/-- Model of `reject_borrowed`. The type is not an owned, named type: a reference, the type of some
    implementer of a trait, a trait object, or left to inference. -/
def isBorrowed (t : SourceType) : Bool :=
  match t.form with
  | .reference | .implementer | .traitObject | .inferred => true
  | .path _ | .other => false

/-- Model of `is_result`: the type is a path that ends in `Result`. -/
def isResult (t : SourceType) : Bool := t.form = .path "Result"

end SourceType

/-- The way of taking the receiver that a text such as `&self` or `&mut self` stands for. A
    receiver taken by value or with a written type stands for none. -/
def Receiver.ofText? (text : String) : Option Receiver :=
  match SourceToken.ofText? text with
  | some (.mark '&' _ :: rest) =>
    if rest.any fun token => SourceToken.nextMark ':' [token] then none
    else some (if rest.contains (.name "mut") then .mutable else .shared)
  | _ => none

end ObjectPath
