import ObjectPath.Gallery.Zoo

/-!
# One field of every type

A class with a field of every scalar type, which copies its objects itself, and a class with
nested optional values and vectors.
-/

namespace ObjectPath.Gallery

/-- A field of every scalar type. -/
def prims : ClassDecl :=
  let bare := ClassDecl.named "prim::Prims"
    [.plain "unit" .unit, .plain "yes" .bool, .plain "ch" .char,
     .plain "a8" (.int .i8), .plain "a16" (.int .i16), .plain "a32" (.int .i32),
     .plain "a64" (.int .i64), .plain "a128" (.int .i128), .plain "asize" (.int .isize),
     .plain "b8" (.int .u8), .plain "b16" (.int .u16), .plain "b32" (.int .u32),
     .plain "b64" (.int .u64), .plain "b128" (.int .u128), .plain "bsize" (.int .usize),
     .plain "x32" (.float .f32), .plain "x64" (.float .f64), .plain "text" .string,
     .plain "nil" .null]
  { bare with cloning := .native id }

/-- An optional value two layers deep. -/
def deepTy : Ty := .optional (.optional (.int .i32))

/-- A vector of vectors. -/
def gridTy : Ty := .vector (.vector (.int .u8))

/-- Optional values and vectors, some of them nested. -/
def opts : ClassDecl :=
  ClassDecl.named "prim::Opts"
    [.plain "deep" deepTy, .plain "list" (.optional (.vector .string)),
     .plain "items" (.vector (.optional (.int .i32))), .plain "grid" gridTy,
     .plain "home" (.optional (.optional home.objects)), .plain "real" (.optional (.float .f64))]
  |>.method "put" [deepTy] (.writes fun v args => (v.slotAt [0], v.fill [0] (argument args 0)))
  |>.method "nothing" [] (.reads fun _ _ => .null)
  |>.method "take_null" [.null] (.reads fun _ _ => .string "got null")
  |>.method "grid" [] (.reads fun v _ => v.slotAt [3])

/-- The classes of this module. -/
def prim : List ClassDecl := [prims, opts]

end ObjectPath.Gallery
