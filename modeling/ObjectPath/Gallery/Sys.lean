import ObjectPath.Gallery.Zoo

/-!
# Handles

Objects that cannot be cloned and that scripts cannot look into, classes that hold them, and a
class whose description does not fit its objects.
-/

namespace ObjectPath.Gallery

/-- The identity of `sys::Handle`. -/
def handleId : ClassId := ⟨"sys::Handle", ""⟩

/-- A sealed object with a number. -/
def handle : ClassDecl :=
  let bare := ClassDecl.of handleId [.plain "id" (.int .u32)]
  { bare with module := none, isSealed := true, fields := [], cloning := .refused }
  |>.method "id" [] (.reads fun v _ => v.slotAt [0])

/-- A class that holds handles in all ways. -/
def vault : ClassDecl :=
  ClassDecl.named "sys::Vault"
    [.plain "title" .string, .holding "handle" handle, .plain "spare" (.optional handle.objects),
     .plain "list" (.vector handle.objects)]
  |>.method "open" [handle.objects] (.reads fun v args =>
      .wrapped .u32 (((argument args 0).slotAt [0]).number + (v.slotAt [1, 0]).number))
  |>.method "issue" [] (.reads fun _ _ => .object handleId [.int .u32 99])

/-- A vault with a code. -/
def safe : ClassDecl :=
  .named "sys::Safe" [.embedding "vault" vault, .plain "code" (.int .u16)]

/-- A room with a safe. -/
def room : ClassDecl :=
  .named "sys::Room" [.holding "safe" safe, .plain "number" (.int .u8)]

/-- A class whose fields, base and methods are not what its objects have: fields and a base that
    are not there, and invokers that do not follow the signatures. -/
def broken : ClassDecl :=
  let self := Ty.object ⟨"sys::Broken", ""⟩
  let one : List Ty := [.int .i32]
  let bare := ClassDecl.named "sys::Broken" [.plain "real" (.int .i32)]
  { bare with
    fields := [⟨"real", .int .i32⟩, ⟨"ghost", .string⟩, ⟨"real", .int .u8⟩]
    base := some ⟨"phantom", animal.objects⟩
    methods :=
      [{ name := "lies", params := one, arity := 2, takes := [.int .i32, .int .i32], self := none,
         body := .reads fun _ args =>
          .wrapped .i32 ((argument args 0).number + (argument args 1).number) },
       { name := "mistyped", params := one, arity := 1, takes := [.string], self := none,
         body := .reads fun _ args => argument args 0 },
       { name := "greedy", params := one, arity := 1, takes := [.int .i32, .int .i32],
         self := none,
         body := .makes fun args =>
          .wrapped .i32 ((argument args 0).number + (argument args 1).number) },
       { Method.of "stray" self [] (.reads fun v _ => v.slotAt [1]) with
         self := some animal.objects }] }

/-- The classes of this module, bases first. -/
def sys : List ClassDecl := [handle, vault, safe, room, broken]

end ObjectPath.Gallery
