import ObjectPath.Builtin

/-!
# Parts of values

A value is read and written through its parts, and its kind says which parts it has: a struct
has declared fields, found by name or by position, and perhaps a base object; a nullable value
has a payload that may be missing, and may itself be replaced; a sealed value is only replaced
as a whole. The parts of an embedded base object are reached by first going a number of levels
up.

* `Schema.in_of_partAt`: a part that was found lies where it was found.
-/

namespace ObjectPath

/-- A part of a value. -/
inductive Part where
  | named (name : String)
  | numbered (index : Nat)
  | base
  | payload
  | whole
deriving DecidableEq

/-- Values of the kind are read and written through the part. -/
def Part.fits : Part → Kind → Bool
  | named _, kind | numbered _, kind | base, kind => kind = .struct
  | payload, kind => kind = .nullable
  | whole, kind => kind ≠ .struct

/-- Why the parts of a value cannot be asked for: there are fewer base objects than levels to go
    up, or values of that kind have no such parts. -/
inductive PartError where
  | noBase
  | wrongKind
deriving DecidableEq

/-- The payload of a present optional value. -/
def Value.payloadSpot? : Value → Option Spot
  | .present payload => some ⟨[.payload], payload⟩
  | _ => none

theorem Value.in_of_payloadSpot? {v : Value} {spot : Spot} (h : v.payloadSpot? = some spot) :
    spot.In v := by
  cases v <;> simp [payloadSpot?] at h
  subst h
  rfl

namespace Schema

/-- Model of `reflect_kind`: the kind of the value. -/
def kindOf (S : Schema) (v : Value) : Kind := (S.classOf v.ty).kind

/-- Model of `field`, `field_at` and `superclass` of `Struct` and `value` of `Nullable`. The part of
    the value itself, if it is there. -/
def part? (S : Schema) (v : Value) : Part → Option Spot
  | .named name => S.field? v name
  | .numbered index => S.fieldAt? v index
  | .base => S.base? v
  | .payload => v.payloadSpot?
  | .whole => some (.whole v)

/-- The value itself or one of its base objects, which must be of a fitting kind. -/
def host (S : Schema) (v : Value) (levels : Nat) (fits : Kind → Bool) : Except PartError Spot :=
  match S.ascend? v levels with
  | none => .error .noBase
  | some spot => if fits (S.kindOf spot.value) then .ok spot else .error .wrongKind

/-- The part of a base object some levels up, if it is there. -/
def partAt (S : Schema) (v : Value) (levels : Nat) (part : Part) :
    Except PartError (Option Spot) := do
  let owner ← S.host v levels part.fits
  .ok ((S.part? owner.value part).map owner.within)

theorem in_of_part? {S : Schema} {v : Value} {part : Part} {spot : Spot}
    (h : S.part? v part = some spot) : spot.In v := by
  cases part with
  | named name => exact in_of_field? h
  | numbered index => exact in_of_fieldAt? h
  | base => exact in_of_base? h
  | payload => exact Value.in_of_payloadSpot? h
  | whole =>
    simp only [part?, Option.some.injEq] at h
    exact h ▸ .whole v

theorem in_of_partAt {S : Schema} {v : Value} {levels : Nat} {part : Part} {spot : Spot}
    (h : S.partAt v levels part = .ok (some spot)) : spot.In v := by
  unfold partAt host at h
  cases hup : S.ascend? v levels with
  | none => simp [hup, bind, Except.bind] at h
  | some owner =>
    simp only [hup] at h
    split at h
    · simp only [bind, Except.bind, Except.ok.injEq, Option.map_eq_some_iff] at h
      obtain ⟨inside, hi, rfl⟩ := h
      exact .within (in_of_ascend? hup) (in_of_part? hi)
    · simp [bind, Except.bind] at h

/-- Model of `name_at`: the name of the declared field at the given position of a base object some
    levels up. -/
def nameAt (S : Schema) (v : Value) (levels index : Nat) : Except PartError (Option String) := do
  let owner ← S.host v levels (· = .struct)
  .ok (S.fieldNames owner.value)[index]?

/-- What came of storing a new value in a part: there is no such part; the new value does not
    convert to the type of the part; or it took the place of the old one. -/
inductive Stored where
  | missing
  | refused
  | done (old changed : Value)
deriving DecidableEq

/-- Stores a new value in a part, as `replace` does. -/
def store (S : Schema) (v : Value) (levels : Nat) (part : Part) (new : Value) :
    Except PartError Stored := do
  match ← S.partAt v levels part with
  | none => .ok .missing
  | some spot =>
    match spot.value.overwrite? new with
    | none => .ok .refused
    | some stored => .ok (.done spot.value (v.put spot.place stored))

/-- Model of `field_as`: the part, if it is there and has the given type. -/
def partOf (S : Schema) (v : Value) (levels : Nat) (part : Part) (ty : Ty) :
    Except PartError (Option Spot) := do
  let found ← S.partAt v levels part
  .ok (found.filter fun spot => spot.value.ty = ty)

/-- Stores a new value in a part that has the new value's very type. -/
def storeSame (S : Schema) (v : Value) (levels : Nat) (part : Part) (new : Value) :
    Except PartError Stored := do
  match ← S.partOf v levels part new.ty with
  | none => .ok .missing
  | some spot => .ok (.done spot.value (v.put spot.place new))

end Schema

end ObjectPath
