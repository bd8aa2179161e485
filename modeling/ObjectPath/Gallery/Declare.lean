import ObjectPath.Schema
import ObjectPath.Value.Print

/-!
# Declaring classes

Short forms for the declaration of a class: its slots, the bodies of its methods, and the
reading and writing of slots inside a body. A body is run on a receiver and on arguments of the
declared types, so what the readers here answer for other values never shows.
-/

namespace ObjectPath

/-! ## Slots -/

/-- What a slot of a type that is not a class holds at first: zero, or nothing. -/
def Ty.blank : Ty → Value
  | .unit => .unit
  | .null => .null
  | .bool => .bool false
  | .char => .char '\x00'
  | .int kind => .int kind 0
  | .float kind => .float kind 0
  | .string => .string ""
  | .optional inner => .absent inner
  | .vector inner => .vector inner []
  | .object id => .object id []

namespace Slot

/-- A field that scripts see. -/
def plain (name : String) (ty : Ty) : Slot := ⟨name, ty, .declared, ty.blank⟩

/-- A field that scripts see and that holds an object. -/
def holding (name : String) (c : ClassDecl) : Slot := ⟨name, .object c.id, .declared, c.initial⟩

/-- The embedded base object. -/
def embedding (name : String) (c : ClassDecl) : Slot := ⟨name, .object c.id, .base, c.initial⟩

/-- A field that scripts do not see. -/
def hidden (name : String) (ty : Ty) : Slot := ⟨name, ty, .ignored, ty.blank⟩

end Slot

/-! ## Bodies -/

namespace Body

/-- A body that makes a value from its arguments. -/
def makes (run : List Value → Value) : Body := .static fun args => .ok (run args)

/-- A body that reads its receiver. -/
def reads (run : Value → List Value → Value) : Body := .shared fun v args => .ok (run v args)

/-- A body that returns a value and changes its receiver. -/
def writes (run : Value → List Value → Value × Value) : Body :=
  .mutable fun v args => (.ok (run v args).1, (run v args).2)

end Body

namespace ClassDecl

/-- The type of the objects of the class. -/
def objects (c : ClassDecl) : Ty := .object c.id

/-- The class with one more method. -/
def method (c : ClassDecl) (name : String) (params : List Ty) (body : Body) : ClassDecl :=
  { c with methods := c.methods ++ [.of name c.objects params body] }

/-- A class without a variant. -/
def named (path : String) (slots : List Slot) : ClassDecl := .of ⟨path, ""⟩ slots

end ClassDecl

/-! ## Reading and writing in a body -/

namespace Value

/-- The place of nested slots, outermost first. -/
def slotPlace (indices : List Nat) : Place := indices.map .slot

/-- What is in a nested slot. -/
def slotAt (v : Value) (indices : List Nat) : Value := (v.at? (slotPlace indices)).getD .unit

/-- The value with a nested slot filled anew. -/
def fill (v : Value) (indices : List Nat) (new : Value) : Value := v.put (slotPlace indices) new

/-- The text that the value is. -/
def text : Value → String
  | .string s => s
  | _ => ""

/-- The number that the value is. -/
def number : Value → Int
  | .int _ n => n
  | _ => 0

/-- The truth value that the value is. -/
def truth : Value → Bool
  | .bool b => b
  | _ => false

/-- The payload of a present optional value. -/
def payload? : Value → Option Value
  | .present payload => some payload
  | _ => none

/-- The vector with one more item at its end. -/
def appended : Value → Value → Value
  | .vector element items, item => .vector element (items ++ [item])
  | v, _ => v

/-- The vector without its last item. -/
def shortened : Value → Value
  | .vector element items => .vector element items.dropLast
  | v => v

/-- The last item of a vector. -/
def last? : Value → Option Value
  | .vector _ items => items.getLast?
  | _ => none

/-- The number of items of a vector. -/
def count : Value → Nat
  | .vector _ items => items.length
  | _ => 0

/-- The number in the given integer type, reduced to its range. -/
def wrapped (kind : IntKind) (n : Int) : Value := .int kind (kind.wrap n)

/-- The text of a value that holds no objects, for inspection. -/
def inspected (v : Value) : String := (Schema.doc ⟨[], by simp⟩ v).flat

end Value

/-- The argument at a position. -/
def argument (args : List Value) (index : Nat) : Value := args.getD index .unit

end ObjectPath
