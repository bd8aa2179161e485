import ObjectPath.Schema

/-!
# Comparison of values

Two values compare as equal, as different, or not at all. Scalars of different types are
different, and numbers compare as their standard says. Optional values and vectors compare only
with their own type. Objects compare their base objects and then their declared fields, and the
first answer other than "equal" stands; sealed objects do not compare.
-/

namespace ObjectPath

/-- Model of `reflect_partial_eq` on opaque values: equality of two scalars. -/
def Value.scalarEqual : Value → Value → Bool
  | .float k a, .float l b => k == l && k.format.equal a b
  | v, w => v.same w

/-- The first answer that is not "equal", or "equal". -/
def firstDifference : List (Option Bool) → Option Bool
  | [] => some true
  | some true :: rest => firstDifference rest
  | answer :: _ => answer

namespace ClassDecl

/-- The answers for the base slot and then for the declared slots, which is the order of
    `struct_partial_eq`, given the answers for all slots. -/
def compareOrder (c : ClassDecl) (answers : List (Option Bool)) : List (Option Bool) :=
  let cells := c.slots.zip answers
  (cells.filter (fun cell => cell.1.role = .base) ++
    cells.filter (fun cell => cell.1.role = .declared)).map (·.2)

end ClassDecl

namespace Schema

mutual

/-- Model of `reflect_partial_eq` and `struct_partial_eq`: whether the two values are equal, if they
    compare. -/
def equal (S : Schema) : Value → Value → Option Bool
  | .absent inner, w =>
    if w.ty = .optional inner then some (w = .absent inner) else none
  | .present v, w =>
    if w.ty = .optional v.ty then
      match w with
      | .present u => equal S v u
      | _ => some false
    else none
  | .vector element xs, w =>
    match w with
    | .vector other ys =>
      if element ≠ other then none
      else if xs.length ≠ ys.length then some false
      else firstDifference (equalEach S xs ys)
    | _ => none
  | .object id xs, w =>
    if (S.decl id).isSealed then none
    else
      match w with
      | .object other ys =>
        if id = other then
          firstDifference ((S.decl id).compareOrder (equalEach S xs ys))
        else some false
      | _ => some false
  | v, w => some (v.scalarEqual w)

/-- The answers for the values at the same positions. -/
def equalEach (S : Schema) : List Value → List Value → List (Option Bool)
  | x :: xs, y :: ys => equal S x y :: equalEach S xs ys
  | _, _ => []

end

end Schema

end ObjectPath
