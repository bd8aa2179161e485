import ObjectPath.Convert
import ObjectPath.Schema

/-!
# Clones

A clone of a value is made part by part. Scalars are copied; optional values and vectors clone
what they hold; an object clones its declared slots and its base object, and gets fresh initial
values in the slots hidden from scripts. A class may instead copy its objects itself, or refuse.

A failure inside an object is reported as a failure of the object's field: the first declared
field that cannot be cloned, or else the base field.

A value is made into a value of a wanted type in two ways: `takeAs` uses up the value and hands
it back if it does not fit, `cloneAs?` leaves it as it is and works on clones.
-/

namespace ObjectPath

/-- Model of `ReflectCloneError`: why a value cannot be cloned. -/
inductive CloneError where
  | unsupported (cls : String)
  | field (cls : String) (field : String)
deriving DecidableEq

namespace CloneError

/-- Model of `class` of `ReflectCloneError`: the class the failure is reported for. -/
def className : CloneError → String
  | unsupported cls => cls
  | field cls _ => cls

/-- The text of the failure. -/
def message : CloneError → String
  | unsupported cls => s!"`{cls}` values cannot be cloned"
  | field cls name => s!"field `{name}` of `{cls}` cannot be cloned"

end CloneError

/-- All results, or the first failure. -/
def collect {ε α : Type} : List (Except ε α) → Except ε (List α)
  | [] => .ok []
  | .error e :: _ => .error e
  | .ok a :: rest => (collect rest).map (a :: ·)

namespace ClassDecl

/-- The declared slots and then the base slot, each with the result of cloning it. -/
def cloneOrder (c : ClassDecl) (results : List (Except CloneError Value)) :
    List (Slot × Except CloneError Value) :=
  let cells := c.slots.zip results
  cells.filter (fun cell => cell.1.role = .declared) ++
    cells.filter (fun cell => cell.1.role = .base)

/-- The slots of the clone, given the results of cloning each slot. A failure is reported in the way
    of `clone_field`. -/
def cloneSlots (c : ClassDecl) (results : List (Except CloneError Value)) :
    Except CloneError (List Value) :=
  match (c.cloneOrder results).find? fun cell => cell.2.toOption.isNone with
  | some (slot, _) => .error (.field c.id.path slot.name)
  | none => .ok ((c.slots.zip results).map fun cell =>
      match cell.1.role, cell.2 with
      | .ignored, _ | _, .error _ => cell.1.initial
      | _, .ok v => v)

end ClassDecl

namespace Schema

mutual

/-- Model of `reflect_clone`: a clone of the value. -/
def clone (S : Schema) : Value → Except CloneError Value
  | .present payload => (clone S payload).map .present
  | .vector element items => (collect (cloneEach S items)).map (.vector element)
  | .object id slots =>
    match (S.decl id).cloning with
    | .refused => .error (.unsupported id.path)
    | .native copy => .ok (.object id (copy slots))
    | .slotwise => ((S.decl id).cloneSlots (cloneEach S slots)).map (.object id)
  | v => .ok v

/-- The clones of the values, one by one. -/
def cloneEach (S : Schema) : List Value → List (Except CloneError Value)
  | [] => []
  | v :: rest => clone S v :: cloneEach S rest

end

/-- Model of `from_reflect`: the value as a value of the given type, made of clones of its parts. -/
def cloneAs? (S : Schema) : Ty → Value → Option Value
  | .optional inner, v =>
    if v.ty = .null then some (.absent inner)
    else if v.ty = .optional inner then
      match v with
      | .present payload => (S.clone payload).toOption.map .present
      | _ => some (.absent inner)
    else (S.cloneAs? inner v).map .present
  | ty, v => if v.ty = ty then (S.clone v).toOption else none

/-- Model of `take_from_reflect`: the value itself as a value of the given type, or else the value
    handed back. -/
def takeAs (S : Schema) : Ty → Value → Except Value Value
  | .optional inner, v =>
    if v.ty = .null then .ok (.absent inner)
    else if v.ty = .optional inner then .ok v
    else (S.takeAs inner v).map .present
  | ty, v =>
    if v.ty = ty then .ok v
    else match S.cloneAs? ty v with
      | some w => .ok w
      | none => .error v

end Schema

end ObjectPath
