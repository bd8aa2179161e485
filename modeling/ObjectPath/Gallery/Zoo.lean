import ObjectPath.Gallery.Declare

/-!
# Animals and their people

A chain of four classes, each embedding the one before, with fields and methods that are
declared on several levels, and two classes without a base that refer to each other.
-/

namespace ObjectPath.Gallery

/-! ## `zoo::Animal` -/

/-- An animal with its name and age. -/
def animal : ClassDecl :=
  let bare := ClassDecl.named "zoo::Animal" [.plain "name" .string, .plain "age" (.int .u32)]
  { bare with autoRegister := true }
  |>.method "rename" [.string] (.writes fun v args =>
      (v.slotAt [0], v.fill [0] (argument args 0)))
  |>.method "birthday" [] (.writes fun v _ =>
      let older := Value.wrapped .u32 ((v.slotAt [1]).number + 1)
      (older, v.fill [1] older))
  |>.method "greet" [.string] (.reads fun v args =>
      .string ((v.slotAt [0]).text ++ " greets " ++ (argument args 0).text))
  |>.method "describe" [] (.reads fun v _ => .string ("animal " ++ (v.slotAt [0]).text))
  |>.method "kingdom" [] (.makes fun _ => .string "animalia")
  |>.method "age" [] (.reads fun v _ => .wrapped .u32 ((v.slotAt [1]).number * 10))

/-! ## `zoo::Home` and `zoo::Person` -/

/-- A place to live. -/
def home : ClassDecl :=
  .named "zoo::Home"
    [.plain "street" .string, .plain "number" (.int .u16), .plain "rooms" (.vector .string)]

/-- The class of persons, before its methods. -/
def personId : ClassId := ⟨"zoo::Person", ""⟩

/-- A person, who may have a nickname and a home. -/
def person : ClassDecl :=
  ClassDecl.of personId
    [.plain "name" .string, .plain "nickname" (.optional .string),
     .plain "home" (.optional home.objects)]
  |>.method "child" [] (.reads fun _ _ => .absent (.object personId))
  |>.method "alias" [] (.reads fun v _ => v.slotAt [1])
  |>.method "nickname" [.optional .string] (.writes fun v args =>
      (v.slotAt [1], v.fill [1] (argument args 0)))
  |>.method "move_to" [home.objects] (.writes fun v args =>
      (.unit, v.fill [2] (.present (argument args 0))))

/-- A person of the given name without nickname and home. -/
def personNamed (name : Value) : Value :=
  .object personId [name, .absent .string, .absent home.objects]

/-! ## `zoo::Dog` -/

/-- The class of dogs, before its methods. -/
def dogId : ClassId := ⟨"zoo::Dog", ""⟩

/-- A dog counts its bumps, knows tricks, and may have an owner. -/
def dog : ClassDecl :=
  let bare := ClassDecl.of dogId
    [.embedding "base" animal, .plain "count" (.int .i32), .plain "tricks" (.vector .string),
     .plain "owner" (.optional person.objects)]
  let bumped (v : Value) : Value := Value.wrapped .i32 ((v.slotAt [1]).number + 1)
  { bare with autoRegister := true }
  |>.method "puppy" [.string] (.makes fun args =>
      bare.initial.fill [0, 0] (argument args 0))
  |>.method "greet" [] (.reads fun v _ => .string ((v.slotAt [0, 0]).text ++ " wags"))
  |>.method "companion" [] (.reads fun v _ => personNamed (v.slotAt [0, 0]))
  |>.method "learn" [.string] (.writes fun v args =>
      let tricks := (v.slotAt [2]).appended (argument args 0)
      (.size tricks.count, v.fill [2] tricks))
  |>.method "join" [.string, .string] (.reads fun _ args =>
      .string ((argument args 0).text ++ "-" ++ (argument args 1).text))
  |>.method "fetch" [.int .u32] (.shared fun _ args =>
      let distance := (argument args 0).number
      if distance > 100 then .error (toString distance ++ " is too far")
      else .ok (.wrapped .u32 (distance * 2)))
  |>.method "adopt" [.optional person.objects] (.writes fun v args =>
      (.bool (v.slotAt [3]).payload?.isSome, v.fill [3] (argument args 0)))
  |>.method "bump" [] (.writes fun v _ => (.unit, v.fill [1] (bumped v)))
  |>.method "bump_fail" [] (.mutable fun v _ =>
      (.error ("mishap #" ++ toString (bumped v).number), v.fill [1] (bumped v)))

/-! ## `zoo::Puppy` and `zoo::Runt` -/

/-- A dog that may not have a name of its own yet. -/
def puppy : ClassDecl :=
  ClassDecl.named "zoo::Puppy"
    [.embedding "dog" dog, .plain "name" (.optional .string), .plain "count" (.int .u8)]
  |>.method "describe" [] (.reads fun v _ =>
      .string ("puppy " ++ (((v.slotAt [1]).payload?.map Value.text).getD "?")))
  |>.method "learn" [.int .u8] (.writes fun v args =>
      let total := Value.wrapped .u8 ((v.slotAt [2]).number + (argument args 0).number)
      (total, v.fill [2] total))

/-- A puppy with nothing of its own. -/
def runt : ClassDecl := .named "zoo::Runt" [.embedding "puppy" puppy]

/-- The classes of this module, bases first. -/
def zoo : List ClassDecl := [animal, home, person, dog, puppy, runt]

end ObjectPath.Gallery
