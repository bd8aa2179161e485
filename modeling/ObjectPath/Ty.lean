import ObjectPath.Decimal.Binary
import ObjectPath.Text.Cut

/-!
# Types

The types of scripted values: scalars, texts, optional values, vectors, and declared classes. A
class is identified by its path together with a variant, so that two classes may declare the
same path and still be distinct types. Every type has a full path, a short name and an
identifier; error messages quote paths, registries look classes up by path or short name.
-/

namespace ObjectPath

/-- The integer types. -/
inductive IntKind where
  | i8 | i16 | i32 | i64 | i128 | isize
  | u8 | u16 | u32 | u64 | u128 | usize
deriving DecidableEq

namespace IntKind

/-- Negative numbers are representable. -/
def signed : IntKind → Bool
  | i8 | i16 | i32 | i64 | i128 | isize => true
  | u8 | u16 | u32 | u64 | u128 | usize => false

/-- The number of bits; the machine word has 64. -/
def bits : IntKind → Nat
  | i8 | u8 => 8
  | i16 | u16 => 16
  | i32 | u32 => 32
  | i64 | u64 | isize | usize => 64
  | i128 | u128 => 128

/-- The name of the type. -/
def name : IntKind → String
  | i8 => "i8" | i16 => "i16" | i32 => "i32" | i64 => "i64" | i128 => "i128" | isize => "isize"
  | u8 => "u8" | u16 => "u16" | u32 => "u32" | u64 => "u64" | u128 => "u128" | usize => "usize"

/-- The representable number congruent to `n` modulo `2 ^ bits`. -/
def wrap (k : IntKind) (n : Int) : Int :=
  if k.signed then n.bmod (Nat.pow 2 k.bits) else n % Int.pow 2 k.bits

end IntKind

/-- The floating-point types. -/
inductive FloatKind where
  | f32 | f64
deriving DecidableEq

namespace FloatKind

/-- The binary format of the type. -/
def format : FloatKind → Decimal.Format
  | f32 => .single
  | f64 => .double

/-- The name of the type. -/
def name : FloatKind → String
  | f32 => "f32"
  | f64 => "f64"

end FloatKind

/-- A declared class. `variant` tells apart classes that declare the same path. -/
structure ClassId where
  path : String
  variant : String
deriving DecidableEq

/-- The part of a path behind its last `::`. -/
def lastSegment (path : String) : String :=
  match Text.cutLast? path.toList with
  | some (_, after) => String.ofList after
  | none => path

/-- The part of a path in front of its last `::`, if it has one. -/
def parentPath? (path : String) : Option String :=
  (Text.cutLast? path.toList).map fun cut => String.ofList cut.1

/-- Model of `Type`: the types of values. `null` is the type of the one value that stands for an
    absent one whatever its type. -/
inductive Ty where
  | unit
  | null
  | bool
  | char
  | int (kind : IntKind)
  | float (kind : FloatKind)
  | string
  | optional (inner : Ty)
  | vector (inner : Ty)
  | object (id : ClassId)
deriving DecidableEq

namespace Ty

/-- Model of `type_path`: the full path. -/
def path : Ty → String
  | unit => "()"
  | null => "rp_reflect::ops::Null"
  | bool => "bool"
  | char => "char"
  | int kind => kind.name
  | float kind => kind.name
  | string => "alloc::string::String"
  | optional inner => "core::option::Option<" ++ inner.path ++ ">"
  | vector inner => "alloc::vec::Vec<" ++ inner.path ++ ">"
  | object id => id.path

/-- Model of `type_name`. The short name: the path without modules, also inside type arguments. -/
def name : Ty → String
  | unit => "()"
  | null => "Null"
  | bool => "bool"
  | char => "char"
  | int kind => kind.name
  | float kind => kind.name
  | string => "String"
  | optional inner => "Option<" ++ inner.name ++ ">"
  | vector inner => "Vec<" ++ inner.name ++ ">"
  | object id => lastSegment id.path

/-- Model of `type_ident`: the short name without type arguments. -/
def ident : Ty → String
  | optional _ => "Option"
  | vector _ => "Vec"
  | ty => ty.name

/-- Model of `nullable_inner`: the type of the payload of an optional type. -/
def inner? : Ty → Option Ty
  | optional inner => some inner
  | _ => none

/-- The types a type is built from, itself first. -/
def parts : Ty → List Ty
  | optional inner => optional inner :: inner.parts
  | vector inner => vector inner :: inner.parts
  | ty => [ty]

end Ty

end ObjectPath
