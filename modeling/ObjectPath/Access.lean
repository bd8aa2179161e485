import ObjectPath.Builtin
import ObjectPath.Script.Error
import ObjectPath.Text.Cut

/-!
# Field access

Reading and writing at a dotted path of field names. Every name must be a field that the class
of the value itself declares; base classes are not searched and nothing is called, so a name
such as `len()` is just a field name. Optional layers are seen through on the way.
-/

namespace ObjectPath

namespace Access

/-- Model of `read_declared` and `read_declared_mut`: the declared field of a value, for a script
    that is quoted in errors. -/
def declared (S : Schema) (script : String) (v : Value) (name : String) :
    Except ScriptError Spot :=
  match v.seeThrough with
  | .error ty => .error (.nullTarget ty.path script)
  | .ok here =>
    let ty := here.value.ty
    match (S.classOf ty).field? name, S.field? here.value name with
    | some _, some inside => .ok (here.within inside)
    | _, _ => .error (.memberNotFound ty.path name script)

/-- The spot that the names lead to, one declared field after the other. -/
def follow (S : Schema) (script : String) : List String → Value → Except ScriptError Spot
  | [], v => .ok (.whole v)
  | name :: names, v => do
    let field ← declared S script v name
    let rest ← follow S script names field.value
    .ok (field.within rest)

/-- Model of `get`: what lies at the path. -/
def get (S : Schema) (target : Value) (path : String) : Except ScriptError Value :=
  (follow S path (Text.parts '.' path) target).map (·.value)

/-- Model of `get_as`: what lies at the path, which must have the given type. -/
def getAs (S : Schema) (target : Value) (path : String) (ty : Ty) : Except ScriptError Value := do
  let v ← get S target path
  if v.ty = ty then .ok v
  else .error (.typeMismatch target.ty.path path ty.path v.ty.path path)

/-- What storing a value came to, and the target as it is afterwards. -/
structure Written where
  result : Except ScriptError Unit
  target : Value

/-- The changed target, if the value was stored. -/
def Written.changed (w : Written) : Except ScriptError Value := w.result.map fun _ => w.target

/-- Stores a new value in a field of an owner's class. The value returned second is what the
    field holds afterwards. -/
def fill (script : String) (owner : Ty) (name : String) (field new : Value) :
    Except ScriptError Unit × Value :=
  match field.overwrite? new with
  | some stored => (.ok (), stored)
  | none => (.error (.typeMismatch owner.path name field.ty.path new.ty.path script), field)

/-- Model of `write_declared`: stores a new value in a declared field. -/
def write (S : Schema) (script : String) (target : Value) (name : String) (new : Value) :
    Written :=
  match declared S script target name with
  | .error e => ⟨.error e, target⟩
  | .ok field =>
    let owner := match target.seeThrough with
      | .ok here => here.value.ty
      | .error ty => ty
    let done := fill script owner name field.value new
    ⟨done.1, target.put field.place done.2⟩

/-- Stores a new value at the path. The last name of the path is the field to store it in, and the
    names in front of it lead to the owner of that field. -/
def assign (S : Schema) (target : Value) (path : String) (new : Value) : Written :=
  match follow S path (Text.frontParts '.' path) target with
  | .error e => ⟨.error e, target⟩
  | .ok parent =>
    let done := write S path parent.value (Text.lastPart '.' path) new
    ⟨done.result, target.put parent.place done.target⟩

/-- Model of `set`: stores a new value at the path. The result is the changed target. -/
def set (S : Schema) (target : Value) (path : String) (new : Value) : Except ScriptError Value :=
  (assign S target path new).changed

/-- Model of `reject_dotted`: the name is a single field name. -/
def rejectDotted (target : Value) (name : String) : Except ScriptError Unit :=
  if name.toList.contains '.' then
    .error (.invalidScript target.ty.path name (.dottedFieldName name))
  else .ok ()

/-- Model of `get_field`: the declared field of that name. -/
def getField (S : Schema) (target : Value) (name : String) : Except ScriptError Value := do
  rejectDotted target name
  (declared S name target name).map (·.value)

/-- Stores a new value in the declared field of that name. -/
def assignField (S : Schema) (target : Value) (name : String) (new : Value) : Written :=
  match rejectDotted target name with
  | .error e => ⟨.error e, target⟩
  | .ok () => write S name target name new

/-- Model of `set_field`: stores a new value in the declared field of that name. The result is the
    changed target. -/
def setField (S : Schema) (target : Value) (name : String) (new : Value) :
    Except ScriptError Value :=
  (assignField S target name new).changed

end Access

end ObjectPath
