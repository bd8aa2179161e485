import ObjectPath.Clone
import ObjectPath.Script.Placeholder
import ObjectPath.Value.Print

/-!
# Arguments and their binding

The arguments of a script are values with declared types, in order. The declared type decides
which methods accept an argument; it is the type of the value unless the caller says otherwise.

Binding looks up the argument of every placeholder of a call and clones it, since one argument
may be used several times. It stops at the first placeholder that has no argument or whose
argument cannot be cloned.
-/

namespace ObjectPath

/-- A value with its declared type. -/
structure Argument where
  value : Value
  ty : Ty
deriving DecidableEq

/-- Model of `Arguments`: the arguments of a script. -/
structure Arguments where
  entries : List Argument
deriving DecidableEq

namespace Arguments

/-- No arguments. -/
def empty : Arguments := ⟨[]⟩

/-- Model of `with`: one more argument, of the type of its value. -/
def push (args : Arguments) (v : Value) : Arguments := ⟨args.entries ++ [⟨v, v.ty⟩]⟩

/-- Model of `with_typed`: one more argument, of a declared type. -/
def pushAs (args : Arguments) (v : Value) (ty : Ty) : Arguments := ⟨args.entries ++ [⟨v, ty⟩]⟩

/-- Model of `from_values`: arguments of the types of their values. -/
def ofValues (values : List Value) : Arguments := ⟨values.map fun v => ⟨v, v.ty⟩⟩

/-- Model of `typed`: arguments of declared types, one for each value. -/
def typed (values : List Value) (types : List Ty) : Except Reason Arguments :=
  if values.length = types.length then .ok ⟨values.zipWith Argument.mk types⟩
  else .error (.argumentTypes values.length types.length)

/-- The number of arguments. -/
def size (args : Arguments) : Nat := args.entries.length

/-- The declared types, in order. -/
def types (args : Arguments) : List Ty := args.entries.map (·.ty)

/-- The value at the given position. -/
def value? (args : Arguments) (index : Nat) : Option Value :=
  (args.entries[index]?).map (·.value)

/-- The arguments, for inspection. -/
def doc (S : Schema) (args : Arguments) : Doc :=
  .group .list "" (args.entries.map fun a =>
    .group .tuple "" [S.doc a.value, .atom a.ty.path])

end Arguments

/-! ## Binding -/

/-- Model of `BoundCall`. The arguments of one call: declared types and cloned values, in the order
    of the call. -/
structure BoundCall where
  entries : List Argument
deriving DecidableEq

namespace BoundCall

/-- The declared types. -/
def types (b : BoundCall) : List Ty := b.entries.map (·.ty)

/-- The cloned values. -/
def values (b : BoundCall) : List Value := b.entries.map (·.value)

/-- The arguments of the call, for inspection. -/
def doc (S : Schema) (b : BoundCall) : Doc :=
  .fields "BoundCall"
    [("types", .group .list "" (b.types.map fun ty => .atom ty.path)),
     ("values", .group .list "" (b.values.map S.doc))]

end BoundCall

namespace Arguments

/-- The argument of a placeholder, cloned. -/
def bindOne (S : Schema) (args : Arguments) (p : Placeholder) : Except Reason Argument :=
  match args.entries[p.index]? with
  | none => .error (.placeholderOutOfRange p.number args.size)
  | some a =>
    match S.clone a.value with
    | .ok copy => .ok ⟨copy, a.ty⟩
    | .error _ => .error (.argumentNotCloneable p.number)

/-- Model of `bind_call`: the arguments of a call's placeholders, cloned. -/
def bind (S : Schema) (args : Arguments) (params : List Placeholder) : Except Reason BoundCall :=
  (params.mapM (args.bindOne S)).map BoundCall.mk

end Arguments

end ObjectPath
