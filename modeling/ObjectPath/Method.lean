import ObjectPath.Doc
import ObjectPath.Value

/-!
# Methods

A method is known to scripts by its name, the way it takes its receiver, and the types of its
parameters. Several methods of a class may share a name; a call picks the first whose parameters
accept the types of its arguments.

A method also has an invoker, which works on type-erased values: it insists on a number of
arguments, converts them to the types it takes, checks the type of the receiver, and runs the
body. A method is `Consistent` when the invoker follows the signature.

* `consistent_of`: methods made by `Method.of` are consistent.
-/

namespace ObjectPath

/-- Model of `Receiver`. How a method takes its receiver: not at all, for reading, or for reading
    and writing. -/
inductive Receiver where
  | static
  | shared
  | mutable
deriving DecidableEq

namespace Receiver

/-- The name of the receiver kind. -/
def label : Receiver → String
  | static => "Static"
  | shared => "Ref"
  | mutable => "Mut"

/-- The method needs no instance. -/
def isStatic : Receiver → Bool
  | static => true
  | shared | mutable => false

end Receiver

/-- What a method does with its receiver and its converted arguments. A body returns a value or
    raises an error with a text; one with a mutable receiver also returns the receiver's new
    state, whether it raises or not. -/
inductive Body where
  | static (run : List Value → Except String Value)
  | shared (run : Value → List Value → Except String Value)
  | mutable (run : Value → List Value → Except String Value × Value)

/-- How the body takes its receiver. -/
def Body.receiver : Body → Receiver
  | static _ => .static
  | shared _ => .shared
  | mutable _ => .mutable

/-- Model of `accepts` of `ParamInfo`: a parameter type accepts arguments of its own type; an
    optional one also accepts its payload type and the null type. -/
def Ty.accepts (param arg : Ty) : Bool :=
  param == arg ||
    match param.inner? with
    | some inner => arg == .null || arg == inner
    | none => false

/-- Model of `MethodInfo`: a method with its invoker, the `MethodFn`. -/
structure Method where
  name : String
  /-- The types of the parameters, as scripts see them. -/
  params : List Ty
  /-- The number of arguments the invoker insists on. -/
  arity : Nat
  /-- The types the invoker converts the arguments to, in order. -/
  takes : List Ty
  /-- The type the invoker wants its receiver to have, if it looks at it. -/
  self : Option Ty
  body : Body

namespace Method

/-- The method of the type `self` whose invoker follows its signature. -/
def of (name : String) (self : Ty) (params : List Ty) (body : Body) : Method :=
  { name, params, arity := params.length, takes := params,
    self := if body.receiver.isStatic then none else some self, body }

/-- How the method takes its receiver. -/
def receiver (m : Method) : Receiver := m.body.receiver

/-- The invoker of a method of `self` follows the signature. -/
def Consistent (self : Ty) (m : Method) : Prop :=
  m.arity = m.params.length ∧ m.takes = m.params ∧
    m.self = if m.receiver.isStatic then none else some self

theorem consistent_of (name : String) (self : Ty) (params : List Ty) (body : Body) :
    (of name self params body).Consistent self := ⟨rfl, rfl, rfl⟩

/-- Model of `matches`: the method can be called with arguments of the given types. -/
def accepts (m : Method) (types : List Ty) : Bool :=
  m.params.length == types.length && (m.params.zip types).all fun pair => pair.1.accepts pair.2

/-- The signature, for inspection. -/
def doc (m : Method) : Doc :=
  .fields "MethodInfo"
    [("name", .quote m.name), ("receiver", .atom m.receiver.label),
     ("params", .group .list "" (m.params.map fun t => .quote t.path))]

end Method

end ObjectPath
