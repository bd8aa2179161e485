import ObjectPath.Builtin

/-!
# Finding members

A member of a value is looked up on the value's class and then on its base classes, nearest
first. Fields are found by name. Methods are found by name and argument types; the legacy mode
`nameOnly` looks at the types on the starting class only, and takes the first method of that
name on the nearest base class that has one.
-/

namespace ObjectPath

/-- Model of `AncestorLookup`: how methods of base classes are found. -/
inductive Lookup where
  | typeAware
  | nameOnly
deriving DecidableEq

/-- Model of `Resolved`: a member with the class that declares it and the number of steps up to that
    class. -/
structure Found (α : Type) where
  owner : Ty
  depth : Nat
  member : α

namespace Schema

/-- The first answer along the type and its base classes. -/
def findUp (S : Schema) {α : Type} (ty : Ty) (search : Class → Option α) : Option (Found α) :=
  (S.ancestors ty).zipIdx.findSome? fun (owner, depth) =>
    (search (S.classOf owner)).map fun member => ⟨owner, depth, member⟩

/-- Model of `resolve_field`: the field of that name on the type or its nearest base class that
    declares one. -/
def resolveField (S : Schema) (ty : Ty) (name : String) : Option (Found Member) :=
  S.findUp ty (·.field? name)

/-- Model of `resolve_method`: the method of that name for arguments of the given types. -/
def resolveMethod (S : Schema) (lookup : Lookup) (ty : Ty) (name : String) (types : List Ty) :
    Option (Found Method) :=
  match lookup with
  | .typeAware => S.findUp ty (·.method? name types)
  | .nameOnly =>
    match (S.classOf ty).method? name types with
    | some m => some ⟨ty, 0, m⟩
    | none =>
      ((S.ancestors ty).zipIdx.drop 1).findSome? fun (owner, depth) =>
        ((S.classOf owner).methodsNamed name).head?.map fun m => ⟨owner, depth, m⟩

end Schema

end ObjectPath
