import ObjectPath.Access
import ObjectPath.Eval
import ObjectPath.Registry

/-!
# Reflectors

The entry points for scripts given as texts. A reflector removes blanks around a script, if its
options say so, reads it, and evaluates it on a target or, statically, on a registered class.
-/

namespace ObjectPath

/-- Model of `ScriptOptions`: how scripts are read and members are found. -/
structure ScriptOptions where
  lookup : Lookup
  trim : Bool
deriving DecidableEq

namespace ScriptOptions

/-- Type-aware lookup and trimmed scripts. -/
def standard : ScriptOptions := ⟨.typeAware, true⟩

/-- Model of `prepare`: the script as it is read. -/
def prepare (o : ScriptOptions) (script : String) : String :=
  if o.trim then Text.trimmed script else script

end ScriptOptions

/-- Model of `Reflector`: the classes, the options and the registry that scripts are run with. -/
structure Reflector where
  schema : Schema
  options : ScriptOptions
  registry : Option Registry

namespace Reflector

/-- Model of `compile`: reads a script for a class. -/
def compile (R : Reflector) (cls script : String) : Except ScriptError Script :=
  (Script.parse (R.options.prepare script)).mapError fun reason =>
    .invalidScript cls script reason

/-- The evaluation of a script that has been read. -/
def evaluation (R : Reflector) (script : Script) (args : Arguments) : Evaluation :=
  ⟨R.schema, R.options.lookup, script, args⟩

/-- Model of `run`: evaluates a script on a target, with a value to assign or none. -/
def run (R : Reflector) (target : Value) (script : String) (args : Arguments)
    (terminal : Option Value) : Outcome :=
  match R.compile target.ty.path script with
  | .error e => ⟨.error e, target, []⟩
  | .ok compiled => (R.evaluation compiled args).evaluate target terminal

/-- Model of `reflect`, `reflect_with_args` and `reflect_assign`. Evaluates a script on a target,
    with arguments of the types of their values. -/
def reflect (R : Reflector) (target : Value) (script : String) (values : List Value)
    (terminal : Option Value) : Outcome :=
  R.run target script (.ofValues values) terminal

/-- Model of `reflect_typed` and `reflect_typed_assign`: evaluates a script on a target, with
    arguments of declared types. -/
def reflectTyped (R : Reflector) (target : Value) (script : String) (values : List Value)
    (types : List Ty) (terminal : Option Value) : Outcome :=
  match Arguments.typed values types with
  | .error reason => ⟨.error (.invalidScript target.ty.path script reason), target, []⟩
  | .ok args => R.run target script args terminal

/-- Model of `resolve_static`: evaluates a script on the registered class of the given name. -/
def resolveStatic (R : Reflector) (cls script : String) (values : List Value) :
    Except ScriptError Value × List LogEntry :=
  match R.registry.bind (·.resolve? cls) with
  | none => (.error (.classNotFound cls script), [])
  | some ty =>
    match R.compile ty.path script with
    | .error e => (.error e, [])
    | .ok compiled => (R.evaluation compiled (.ofValues values)).evaluateStatic ty

/-- Model of `get` of `Reflector`: what lies at a path of declared fields. -/
def get (R : Reflector) (target : Value) (path : String) : Except ScriptError Value :=
  Access.get R.schema target (R.options.prepare path)

/-- Model of `get_as` of `Reflector`: what lies at a path of declared fields, which must have the
    given type. -/
def getAs (R : Reflector) (target : Value) (path : String) (ty : Ty) :
    Except ScriptError Value :=
  Access.getAs R.schema target (R.options.prepare path) ty

/-- Model of `set` of `Reflector`: stores a new value at a path of declared fields. -/
def set (R : Reflector) (target : Value) (path : String) (new : Value) :
    Except ScriptError Value :=
  Access.set R.schema target (R.options.prepare path) new

end Reflector

end ObjectPath
