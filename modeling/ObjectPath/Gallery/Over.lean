import ObjectPath.Gallery.Declare

/-!
# Overloaded methods

Three classes, each embedding the one before, whose methods share names and differ in their
parameters. Most methods leave a note of the call in the trail of the innermost object.
-/

namespace ObjectPath.Gallery

/-- The object with a note at the end of the trail in a nested slot. -/
def noted (v : Value) (trail : List Nat) (note : String) : Value :=
  v.fill trail ((v.slotAt trail).appended (.string note))

/-- A body that leaves a note in a trail and returns a value. -/
def noting (trail : List Nat) (note : List Value → String) (result : List Value → Value) : Body :=
  .writes fun v args => (result args, noted v trail (note args))

/-- The trail of the given notes. -/
def trailOf (notes : List Value) : Value := .vector .string notes

/-- The identity of `over::Base`. -/
def overBaseId : ClassId := ⟨"over::Base", ""⟩

/-- The innermost class, which holds the trail. -/
def overBase : ClassDecl :=
  ClassDecl.of overBaseId [.plain "trail" (.vector .string)]
  |>.method "f" [.int .i32] (noting [0]
      (fun args => "base.f(i32 " ++ toString (argument args 0).number ++ ")")
      (fun _ => .string "base i32"))
  |>.method "f" [.optional (.int .i64)] (noting [0]
      (fun args => "base.f(opt " ++ (argument args 0).inspected ++ ")")
      (fun _ => .string "base opt i64"))
  |>.method "g" [] (noting [0] (fun _ => "base.g()") (fun _ => .string "base g"))
  |>.method "h" [.int .u8, .int .u8] (noting [0]
      (fun args => "base.h(" ++ toString (argument args 0).number ++ "," ++
        toString (argument args 1).number ++ ")")
      (fun args => .wrapped .u8 ((argument args 0).number - (argument args 1).number)))
  |>.method "make" [.int .i32] (.makes fun args =>
      .object overBaseId [trailOf [.string ("make " ++ toString (argument args 0).number)]])
  |>.method "only_base" [.bool] (.reads fun _ args => .bool (!(argument args 0).truth))

/-- The identity of `over::Mid`. -/
def overMidId : ClassId := ⟨"over::Mid", ""⟩

/-- The class in the middle. -/
def overMid : ClassDecl :=
  ClassDecl.of overMidId [.embedding "base" overBase, .plain "level" (.int .i64)]
  |>.method "f" [.string] (noting [0, 0]
      (fun args => "mid.f(str " ++ (argument args 0).text ++ ")")
      (fun _ => .string "mid str"))
  |>.method "g" [.int .i32] (noting [0, 0]
      (fun args => "mid.g(" ++ toString (argument args 0).number ++ ")")
      (fun args => .wrapped .i32 (-(argument args 0).number)))
  |>.method "make" [.string] (.makes fun args =>
      .object overMidId [.object overBaseId [trailOf [argument args 0]], .int .i64 (-1)])

/-- The outermost class, with a field of the name of the trail. -/
def overTop : ClassDecl :=
  ClassDecl.named "over::Top" [.embedding "mid" overMid, .plain "trail" (.int .u64)]
  |>.method "f" [.optional (.int .i32)] (noting [0, 0, 0]
      (fun args => "top.f(opt " ++ (argument args 0).inspected ++ ")")
      (fun _ => .string "top opt i32"))
  |>.method "f" [.int .i32] (noting [0, 0, 0]
      (fun args => "top.f(i32 " ++ toString (argument args 0).number ++ ")")
      (fun _ => .string "top i32"))
  |>.method "f" [.optional (.optional (.int .u8))] (noting [0, 0, 0]
      (fun args => "top.f(deep " ++ (argument args 0).inspected ++ ")")
      (fun _ => .string "top deep u8"))
  |>.method "two" [.optional .string, .string] (.reads fun _ args =>
      .string ("opt-first " ++ (argument args 0).inspected ++ " " ++ (argument args 1).text))
  |>.method "two" [.string, .optional .string] (.reads fun _ args =>
      .string ("opt-second " ++ (argument args 0).text ++ " " ++ (argument args 1).inspected))
  |>.method "two" [.int .i8, .int .i8, .int .i8] (.reads fun _ args =>
      .wrapped .i8 ((argument args 0).number + (argument args 1).number -
        (argument args 2).number))

/-- The classes of this module, bases first. -/
def overloads : List ClassDecl := [overBase, overMid, overTop]

end ObjectPath.Gallery
