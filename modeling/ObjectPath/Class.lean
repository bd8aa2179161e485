import ObjectPath.Method

/-!
# Classes

A class describes what scripts can reach on the values of one type: the kind of the values, the
declared fields, the base class they embed, and the methods.
-/

namespace ObjectPath

/-- Model of `ReflectKind`. The kinds of values: structs have fields, nullable values a payload that
    may be missing, and sealed values show nothing. -/
inductive Kind where
  | struct
  | nullable
  | sealed
deriving DecidableEq

/-- The name of the kind. -/
def Kind.label : Kind → String
  | struct => "Struct"
  | nullable => "Nullable"
  | sealed => "Opaque"

/-- Model of `FieldInfo` and `SuperClass`. A named member of a type: a field, or the field that
    embeds the base class. -/
structure Member where
  name : String
  ty : Ty
deriving DecidableEq

/-- Model of `ClassInfo`: what is known about the values of a type. -/
structure Class where
  ty : Ty
  module : Option String
  kind : Kind
  fields : List Member
  base : Option Member
  methods : List Method

namespace Class

/-- Model of `index_of`: the position of the field of that name; of several, the last one. -/
def fieldIndex? (c : Class) (name : String) : Option Nat :=
  (c.fields.zipIdx.reverse.find? fun entry => entry.1.name == name).map (·.2)

/-- Model of `field` of `ClassInfo`: the declared field of that name; of several, the last one. -/
def field? (c : Class) (name : String) : Option Member :=
  c.fields.reverse.find? fun field => field.name == name

/-- Model of `methods_named`: the methods of that name, in the order of their declaration. -/
def methodsNamed (c : Class) (name : String) : List Method :=
  c.methods.filter fun m => m.name == name

/-- Model of `method` of `ClassInfo`: the first declared method of that name that accepts the
    argument types. -/
def method? (c : Class) (name : String) (types : List Ty) : Option Method :=
  (c.methodsNamed name).find? (·.accepts types)

/-- The class in short, for inspection. -/
def doc (c : Class) : Doc :=
  .fields "ClassInfo"
    [("ty", .atom c.ty.path), ("kind", .atom c.kind.label),
     ("superclass", .option (c.base.map fun b => .atom b.ty.path)),
     ("fields", .group .list "" (c.fields.map fun f => .quote f.name)),
     ("methods", .group .list "" (c.methods.map Method.doc))]

/-- Model of `TypePathTable`: the four names of the type, for inspection. -/
def pathDoc (c : Class) : Doc :=
  .fields "TypePathTable"
    [("type_path", .quote c.ty.path), ("type_name", .quote c.ty.name),
     ("type_ident", .quote c.ty.ident), ("module_path", .option (c.module.map .quote))]

end Class

end ObjectPath
