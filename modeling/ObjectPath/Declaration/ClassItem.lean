import ObjectPath.Declaration.SourcePath
import ObjectPath.Declaration.SourceType
import ObjectPath.Schema

/-!
# Classes declared by source items

A source item with named fields declares a class. Entries on the item rename the class or switch
features on; an entry on a field makes it the embedded base object or hides it from scripts.
`ClassItem.plan` checks the item, rule by rule in a fixed order, and gives every field its role.
-/

namespace ObjectPath

/-! ## Source items -/

/-- A named field of a source item. -/
structure FieldItem where
  name : String
  type : SourceType
  attributes : List Attribute
deriving DecidableEq

/-- What kind of type a source item defines. -/
inductive Shape where
  | record (fields : List FieldItem)
  | tuple
  | unit
  | enumeration
  | union
deriving DecidableEq

/-- A source item that defines a type. -/
structure ClassItem where
  name : String
  generics : List String
  attributes : List Attribute
  shape : Shape
deriving DecidableEq

/-! ## Entries -/

/-- Model of `TypeAttributes`: what the entries of an item ask for. -/
structure ClassOptions where
  /-- The full path of the class, instead of the one given by its module and name. -/
  typePath : Option String
  /-- The class has a table of methods. -/
  methods : Bool
  /-- The class takes part in automatic registration. -/
  autoRegister : Bool
  /-- The class copies its objects itself. -/
  clone : Bool
  /-- Where the traits are found. -/
  cratePath : Option SourcePath
deriving DecidableEq

/-- The text can be the full path of a class. -/
def isTypePath (text : String) : Bool :=
  !text.isEmpty && !("::".toList.isPrefixOf text.toList) && !("::".toList.isSuffixOf text.toList)

namespace ClassOptions

/-- Nothing is asked for. -/
def none : ClassOptions := ⟨.none, false, false, false, .none⟩

/-- Model of `parse_meta` of `TypeAttributes`: what is asked for with one more entry; of several
    texts for one key, the last one counts. -/
def apply (o : ClassOptions) (e : Entry) : Except DeclarationError ClassOptions :=
  match e.key with
  | "type_path" => do
    let text ← e.setting
    if isTypePath text then .ok { o with typePath := some text } else .error .badTypePath
  | "methods" => e.flag { o with methods := true }
  | "auto_register" => e.flag { o with autoRegister := true }
  | "clone" => e.flag { o with clone := true }
  | "crate_path" => do
    let text ← e.setting
    let path ← SourcePath.read text
    .ok { o with cratePath := some path }
  | _ => .error .unknownClassEntry

end ClassOptions

/-- Model of `FieldAttributes`: what the entries of a field ask for. -/
structure FieldOptions where
  isBase : Bool
  isIgnored : Bool
deriving DecidableEq

namespace FieldOptions

/-- What is asked for with one more entry. -/
def apply (o : FieldOptions) (e : Entry) : Except DeclarationError FieldOptions :=
  match e.key with
  | "extends" => e.flag { o with isBase := true }
  | "ignore" => e.flag { o with isIgnored := true }
  | _ => .error .unknownFieldEntry

/-- The role of the field, which cannot be both the base and hidden. -/
def role (o : FieldOptions) : Except DeclarationError Role :=
  match o.isBase, o.isIgnored with
  | true, true => .error .ignoredBase
  | true, false => .ok .base
  | false, true => .ok .ignored
  | false, false => .ok .declared

end FieldOptions

/-! ## Plans -/

/-- Model of `StructField`: a field with its role. -/
structure PlannedField where
  name : String
  type : SourceType
  role : Role
deriving DecidableEq

/-- Model of `ReflectStruct`: the class that a source item declares. -/
structure ClassPlan where
  name : String
  options : ClassOptions
  fields : List PlannedField
deriving DecidableEq

/-- The field with its role. -/
def FieldItem.plan (f : FieldItem) : Except DeclarationError PlannedField := do
  let options ← (entriesOf f.attributes).foldlM FieldOptions.apply ⟨false, false⟩
  let role ← options.role
  .ok ⟨plainName f.name, f.type, role⟩

/-- The fields with their roles; `hasBase` tells that a base was seen before them. -/
def planFields : Bool → List FieldItem → Except DeclarationError (List PlannedField)
  | _, [] => .ok []
  | hasBase, f :: rest => do
    let field ← f.plan
    if field.role = .base ∧ hasBase then .error .secondBase
    else
      let others ← planFields (hasBase || field.role = .base) rest
      .ok (field :: others)

/-- Model of `from_ast`. The class that the item declares: first the entries of the item are
    checked, then that it is not generic, then that it has named fields, then the fields one after
    the other. -/
def ClassItem.plan (item : ClassItem) : Except DeclarationError ClassPlan := do
  let options ← (entriesOf item.attributes).foldlM ClassOptions.apply .none
  if item.generics ≠ [] then .error .genericClass
  else
    match item.shape with
    | .record fields => do
      let planned ← planFields false fields
      .ok ⟨plainName item.name, options, planned⟩
    | _ => .error .notARecord

/-- Where the traits are found unless an entry says otherwise. -/
def defaultCrate : SourcePath := ⟨"::rp_reflect"⟩

/-- The names of a class. -/
structure ClassNames where
  path : String
  name : String
  module : Option String
deriving DecidableEq

namespace ClassPlan

/-- Model of `type_path_exprs`: the names of the class, defined in the module `home`. -/
def names (p : ClassPlan) (home : String) : ClassNames :=
  match p.options.typePath with
  | some path => ⟨path, lastSegment path, parentPath? path⟩
  | none => ⟨home ++ "::" ++ p.name, p.name, some home⟩

/-- The fields of the given role, in order. -/
def fieldsOf (p : ClassPlan) (role : Role) : List PlannedField :=
  p.fields.filter fun f => f.role = role

/-- Model of `declared_fields`: the fields that scripts see. -/
def declared (p : ClassPlan) : List PlannedField := p.fieldsOf .declared

/-- Model of `superclass_field`: the field that embeds the base object. -/
def base? (p : ClassPlan) : Option PlannedField := (p.fieldsOf .base).head?

/-- Model of `ignored_fields`: the fields hidden from scripts. -/
def ignored (p : ClassPlan) : List PlannedField := p.fieldsOf .ignored

/-- Model of `rp_reflect_path`: where the traits are found. -/
def crate (p : ClassPlan) : SourcePath := p.options.cratePath.getD defaultCrate

/-- The traits that the class gets. -/
def traits (p : ClassPlan) : List String :=
  ["::info::TypePath", "::info::Typed", "::ops::Struct", "::Reflect", "::FromReflect"].map
    (p.crate.text ++ ·)

/-- Model of `impl_struct`: the declaration of the class, defined in the module `home`, given the
    types that the fields' types stand for, their initial values, and the methods of its table. -/
def declare (p : ClassPlan) (home : String) (tyOf : SourceType → Ty) (initial : SourceType → Value)
    (table : List Method) : ClassDecl :=
  let bare := ClassDecl.of ⟨(p.names home).path, ""⟩
    (p.fields.map fun f => ⟨f.name, tyOf f.type, f.role, initial f.type⟩)
  { bare with
    module := (p.names home).module
    methods := if p.options.methods then table else []
    cloning := if p.options.clone then .native id else .slotwise
    autoRegister := p.options.autoRegister }

end ClassPlan

end ObjectPath
