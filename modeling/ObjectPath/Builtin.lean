import ObjectPath.Clone
import ObjectPath.Text.Blank
import ObjectPath.Text.CaseMap
import ObjectPath.Value.Print

/-!
# Methods of the built-in types

Scalars give their text; texts answer questions about themselves and give changed copies;
vectors give their length, clones of their items, and take new items at the end.
-/

namespace ObjectPath

namespace Text

/-- The first text occurs in the second. -/
def occursIn (needle : List Char) : List Char → Bool
  | [] => needle.isEmpty
  | c :: rest => needle.isPrefixOf (c :: rest) || occursIn needle rest

end Text

/-- A body that reads a text. -/
def Body.ofText (run : String → List Value → Value) : Body :=
  .shared fun v args =>
    match v with
    | .string s => .ok (run s args)
    | other => .ok other

/-- A body that asks a question about a text and an argument text. -/
def Body.ofTexts (run : List Char → List Char → Bool) : Body :=
  .ofText fun s args =>
    match args with
    | [.string t] => .bool (run s.toList t.toList)
    | _ => .bool false

/-- Model of `to_string_method`: the method that gives the text of a scalar. -/
def Method.toText (self : Ty) : Method :=
  .of "to_string" self [] (.shared fun v _ => .ok (.string (v.display?.getD "")))

/-- Model of `string_methods`: the methods of texts. -/
def stringMethods : List Method :=
  [.of "len" .string [] (.ofText fun s _ => .size s.utf8ByteSize),
   .of "is_empty" .string [] (.ofText fun s _ => .bool s.isEmpty),
   .toText .string,
   .of "to_uppercase" .string [] (.ofText fun s _ => .string (Text.uppercase s)),
   .of "to_lowercase" .string [] (.ofText fun s _ => .string (Text.lowercase s)),
   .of "trim" .string [] (.ofText fun s _ => .string (Text.trimmed s)),
   .of "contains" .string [.string] (.ofTexts fun s t => Text.occursIn t s),
   .of "starts_with" .string [.string] (.ofTexts fun s t => t.isPrefixOf s)]

/-- The items of a vector. -/
def Value.items : Value → List Value
  | .vector _ items => items
  | _ => []

/-- Model of `vec_methods`: the methods of vectors of the given element type. -/
def vectorMethods (S : Schema) (element : Ty) : List Method :=
  let self := Ty.vector element
  [.of "len" self [] (.shared fun v _ => .ok (.size v.items.length)),
   .of "is_empty" self [] (.shared fun v _ => .ok (.bool v.items.isEmpty)),
   .of "get" self [.int .usize] (.shared fun v args =>
      match args with
      | [.int _ n] =>
        match v.items[n.toNat]? with
        | none => .ok (.absent element)
        | some item =>
          match S.clone item with
          | .ok copy => .ok (.present copy)
          | .error e => .error e.message
      | _ => .ok (.absent element)),
   .of "push" self [element] (.mutable fun v args =>
      (.ok .unit, .vector element (v.items ++ args)))]

/-- The methods of a type that is not a declared class. -/
def builtinMethods (S : Schema) : Ty → List Method
  | .unit | .null | .optional _ | .object _ => []
  | .string => stringMethods
  | .vector element => vectorMethods S element
  | ty => [.toText ty]

namespace Schema

/-- Model of `class_info`: the class of a type. -/
def classOf (S : Schema) : Ty → Class
  | .object id =>
    let c := S.decl id
    { ty := .object id, module := c.module, kind := if c.isSealed then .sealed else .struct,
      fields := c.fields, base := c.base, methods := c.methods }
  | .optional inner =>
    { ty := .optional inner, module := some "core::option", kind := .nullable,
      fields := [], base := none, methods := [] }
  | .vector element =>
    { ty := .vector element, module := some "alloc::vec", kind := .sealed,
      fields := [], base := none, methods := builtinMethods S (.vector element) }
  | ty =>
    { ty, module := none, kind := .sealed, fields := [], base := none,
      methods := builtinMethods S ty }

theorem ty_classOf (S : Schema) (ty : Ty) : (S.classOf ty).ty = ty := by
  cases ty <;> rfl

/-- The type and the types of its base classes, nearest first, at most `depth` levels up. -/
def lineage (S : Schema) : Nat → Ty → List Ty
  | 0, ty => [ty]
  | depth + 1, ty =>
    ty :: match (S.classOf ty).base with
      | some b => S.lineage depth b.ty
      | none => []

/-- Model of `ancestors` of `ClassInfo`: the type and the types of all its base classes, nearest
    first. -/
def ancestors (S : Schema) (ty : Ty) : List Ty := S.lineage (S.rank ty) ty

end Schema

end ObjectPath
