import ObjectPath.Class
import ObjectPath.Value.Place

/-!
# Schemas

A schema is the collection of declared classes. A declaration says how the objects of a class
are stored (its slots), what scripts are told about it (its fields, base and methods), and how
its objects are cloned. For a `Derived` declaration the second follows from the first.

A base class comes before the classes that extend it, so every chain of base classes ends.

* `Schema.rank_base_lt`: the base of a class has a smaller rank.
* `Schema.in_of_field?`, `Schema.in_of_ascend?`: fields and base objects lie where they are found.
-/

namespace ObjectPath

/-- What a slot of an object is for: a field that scripts see, the embedded base object, or a
    field that scripts do not see. -/
inductive Role where
  | declared
  | base
  | ignored
deriving DecidableEq

/-- A slot of the objects of a class. -/
structure Slot where
  name : String
  ty : Ty
  role : Role
  /-- What the slot holds in an object nobody has filled in. -/
  initial : Value

/-- How the objects of a class are cloned: slot by slot, by the class itself, or not at all. -/
inductive Cloning where
  | slotwise
  | native (copy : List Value → List Value)
  | refused

/-- The declaration of a class. -/
structure ClassDecl where
  id : ClassId
  module : Option String
  /-- Scripts cannot look inside the objects. -/
  isSealed : Bool
  slots : List Slot
  fields : List Member
  base : Option Member
  methods : List Method
  cloning : Cloning
  /-- The class takes part in automatic registration. -/
  autoRegister : Bool

namespace ClassDecl

/-- The slots of the given role, each with its position. -/
def slotsOf (c : ClassDecl) (role : Role) : List (Slot × Nat) :=
  c.slots.zipIdx.filter fun entry => entry.1.role = role

/-- The declared slots, each with its position. -/
def declaredSlots (c : ClassDecl) : List (Slot × Nat) := c.slotsOf .declared

/-- The slot of the base object with its position. -/
def baseSlot? (c : ClassDecl) : Option (Slot × Nat) := (c.slotsOf .base).head?

/-- The member that a slot shows to scripts. -/
def memberOf (entry : Slot × Nat) : Member := ⟨entry.1.name, entry.1.ty⟩

/-- What scripts are told about the class is what its slots say, as `impl_trait_typed` has it. -/
def Derived (c : ClassDecl) : Prop :=
  c.isSealed = false ∧ c.fields = c.declaredSlots.map memberOf ∧
    c.base = c.baseSlot?.map memberOf ∧ ∀ m ∈ c.methods, m.Consistent (.object c.id)

/-- The struct class with the given slots and nothing else. -/
def of (id : ClassId) (slots : List Slot) : ClassDecl :=
  let bare : ClassDecl :=
    { id, module := parentPath? id.path, isSealed := false, slots, fields := [], base := none,
      methods := [], cloning := .slotwise, autoRegister := false }
  { bare with
    fields := bare.declaredSlots.map memberOf, base := bare.baseSlot?.map memberOf }

/-- The object nobody has filled in. -/
def initial (c : ClassDecl) : Value := .object c.id (c.slots.map Slot.initial)

end ClassDecl

/-- The position of a declared class among the classes, counted from one; other types come
    before all classes. -/
def rankIn (classes : List ClassDecl) : Ty → Nat
  | .object id => classes.findIdx (fun c => c.id == id) + 1
  | _ => 0

/-- The declared classes, bases before the classes that extend them. -/
structure Schema where
  classes : List ClassDecl
  bases_first : ∀ c ∈ classes, ∀ b ∈ c.base,
    rankIn classes b.ty < rankIn classes (.object c.id)

namespace Schema

/-- The declaration of a class; an undeclared class has nothing to show. -/
def decl (S : Schema) (id : ClassId) : ClassDecl :=
  (S.classes.find? fun c => c.id == id).getD (.of id [])

@[simp] theorem decl_id (S : Schema) (id : ClassId) : (S.decl id).id = id := by
  unfold decl
  cases h : S.classes.find? fun c => c.id == id with
  | none => rfl
  | some c => simpa using List.find?_some h

theorem decl_mem_or (S : Schema) (id : ClassId) :
    S.decl id ∈ S.classes ∨ S.decl id = .of id [] := by
  unfold decl
  cases h : S.classes.find? fun c => c.id == id with
  | none => exact .inr rfl
  | some c => exact .inl (List.mem_of_find?_eq_some h)

/-- The position of a type in the order of declaration. -/
def rank (S : Schema) (ty : Ty) : Nat := rankIn S.classes ty

theorem rank_base_lt (S : Schema) {id : ClassId} {b : Member} (h : (S.decl id).base = some b) :
    S.rank b.ty < S.rank (.object id) := by
  unfold decl at h
  cases hf : S.classes.find? fun c => c.id == id with
  | none => simp [hf, ClassDecl.of, ClassDecl.baseSlot?, ClassDecl.slotsOf] at h
  | some c =>
    have hc : c.id = id := by simpa using List.find?_some hf
    have := S.bases_first c (List.mem_of_find?_eq_some hf) b (by simpa [hf] using h)
    rwa [hc] at this

/-! ## Objects seen as structs -/

/-- The declaration of the value's class, if scripts may look inside the value. -/
def structOf? (S : Schema) : Value → Option ClassDecl
  | .object id _ => if (S.decl id).isSealed then none else some (S.decl id)
  | _ => none

/-- The spot of a slot. -/
def slotSpot? (v : Value) (entry : Slot × Nat) : Option Spot :=
  (v.child? (.slot entry.2)).map fun part => ⟨[.slot entry.2], part⟩

/-- The names of the declared fields of a struct value. -/
def fieldNames (S : Schema) (v : Value) : List String :=
  ((S.structOf? v).map fun c => c.declaredSlots.map fun entry => entry.1.name).getD []

/-- Model of `field_at` of `Struct`: the declared field at the given position. -/
def fieldAt? (S : Schema) (v : Value) (index : Nat) : Option Spot := do
  let c ← S.structOf? v
  let entry ← c.declaredSlots[index]?
  slotSpot? v entry

/-- Model of `field` of `Struct`: the declared field of the given name. -/
def field? (S : Schema) (v : Value) (name : String) : Option Spot := do
  let c ← S.structOf? v
  let entry ← c.declaredSlots.find? fun entry => entry.1.name == name
  slotSpot? v entry

/-- Model of `superclass` of `Struct`: the embedded base object. -/
def base? (S : Schema) (v : Value) : Option Spot := do
  let c ← S.structOf? v
  let entry ← c.baseSlot?
  slotSpot? v entry

/-- Model of `ascend_mut`: the embedded base object a number of levels up. -/
def ascend? (S : Schema) : Value → Nat → Option Spot
  | v, 0 => some (.whole v)
  | v, depth + 1 => do
    let up ← S.base? v
    let rest ← S.ascend? up.value depth
    some (up.within rest)

/-! ## Spots lie where they say -/

theorem in_of_slotSpot? {v : Value} {entry : Slot × Nat} {spot : Spot}
    (h : slotSpot? v entry = some spot) : spot.In v := by
  obtain ⟨part, hp, rfl⟩ := Option.map_eq_some_iff.1 h
  simp [Spot.In, Value.at?, hp]

theorem in_of_field? {S : Schema} {v : Value} {name : String} {spot : Spot}
    (h : S.field? v name = some spot) : spot.In v := by
  simp only [field?, Option.bind_eq_bind, Option.bind_eq_some_iff] at h
  obtain ⟨_, _, _, _, h⟩ := h
  exact in_of_slotSpot? h

theorem in_of_fieldAt? {S : Schema} {v : Value} {index : Nat} {spot : Spot}
    (h : S.fieldAt? v index = some spot) : spot.In v := by
  simp only [fieldAt?, Option.bind_eq_bind, Option.bind_eq_some_iff] at h
  obtain ⟨_, _, _, _, h⟩ := h
  exact in_of_slotSpot? h

theorem in_of_base? {S : Schema} {v : Value} {spot : Spot} (h : S.base? v = some spot) :
    spot.In v := by
  simp only [base?, Option.bind_eq_bind, Option.bind_eq_some_iff] at h
  obtain ⟨_, _, _, _, h⟩ := h
  exact in_of_slotSpot? h

theorem in_of_ascend? {S : Schema} {v : Value} {depth : Nat} {spot : Spot}
    (h : S.ascend? v depth = some spot) : spot.In v := by
  induction depth generalizing v spot with
  | zero =>
    simp only [ascend?, Option.some.injEq] at h
    exact h ▸ .whole v
  | succ depth ih =>
    simp only [ascend?, Option.bind_eq_bind, Option.bind_eq_some_iff, Option.some.injEq] at h
    obtain ⟨up, hup, rest, hrest, rfl⟩ := h
    exact .within (in_of_base? hup) (ih hrest)

end Schema

end ObjectPath
