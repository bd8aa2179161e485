import ObjectPath.Gallery.Declare

/-!
# Odd classes

Classes with unusual names, with no fields, with hidden fields, with a copy of their own making,
and with objects inside objects of the same class.
-/

namespace ObjectPath.Gallery

/-- Fields and methods with names that few would choose. -/
def keyword : ClassDecl :=
  ClassDecl.named "odd::Keyword"
    [.plain "type" .string, .plain "fn" (.int .i32), .plain "größe" (.int .u64),
     .plain "_x" .bool]
  |>.method "r#match" [] (.reads fun v _ => v.slotAt [1])
  |>.method "say hi" [] (.reads fun _ _ => .string "hi")
  |>.method "größer" [.int .u64] (.writes fun v args =>
      let sum := Value.wrapped .u64 ((v.slotAt [2]).number + (argument args 0).number)
      (sum, v.fill [2] sum))
  |>.method "%1" [] (.reads fun _ _ => .string "percent")
  |>.method " pad " [] (.reads fun _ _ => .string "padded")

/-- A class without fields. -/
def hollow : ClassDecl :=
  ClassDecl.named "odd::Empty" []
  |>.method "me" [] (.reads fun v _ => v)
  |>.method "sum" [.int .i32, .int .i32, .int .i32, .int .i32] (.makes fun args =>
      .wrapped .i32 ((argument args 0).number * 1000 + (argument args 1).number * 100 +
        (argument args 2).number * 10 + (argument args 3).number))

/-- A class with a field that clones do not share. -/
def cached : ClassDecl :=
  .named "odd::Cached"
    [.plain "key" .string, .hidden "cache" (.int .u64), .plain "hits" (.int .u32)]

/-- A class whose objects count how often they were copied. -/
def copier : ClassDecl :=
  let bare := ClassDecl.named "odd::Copier"
    [.plain "copies" (.int .u32), .hidden "hidden" .string]
  { bare with
    cloning := .native fun slots =>
      slots.modify 0 fun copies => .wrapped .u32 (copies.number + 1) }

/-- The identity of `odd::Node`. -/
def nodeId : ClassId := ⟨"odd::Node", ""⟩

mutual

/-- The number of objects in the value, itself included. -/
def countObjects : Value → Nat
  | .object _ slots => countObjectsEach slots + 1
  | .vector _ items => countObjectsEach items
  | _ => 0

/-- The number of objects in the values. -/
def countObjectsEach : List Value → Nat
  | [] => 0
  | v :: rest => countObjects v + countObjectsEach rest

end

/-- The node of the given label without children. -/
def leaf (label : Value) : Value := .object nodeId [label, .vector (.object nodeId) []]

/-- A tree of labels. -/
def node : ClassDecl :=
  ClassDecl.of nodeId [.plain "label" .string, .plain "children" (.vector (.object nodeId))]
  |>.method "leaf" [.string] (.makes fun args => leaf (argument args 0))
  |>.method "count" [] (.reads fun v _ => .size (countObjects v))
  |>.method "add" [.string] (.writes fun v args =>
      let children := (v.slotAt [1]).appended (leaf (argument args 0))
      (.size children.count, v.fill [1] children))
  |>.method "pop" [] (.writes fun v _ =>
      (.ofOption (.object nodeId) (v.slotAt [1]).last?, v.fill [1] (v.slotAt [1]).shortened))

/-- The classes of this module. -/
def odd : List ClassDecl := [keyword, hollow, cached, copier, node]

end ObjectPath.Gallery
