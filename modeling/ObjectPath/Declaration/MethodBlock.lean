import ObjectPath.Declaration.ClassItem

/-!
# Methods declared by source blocks

A block of functions declares the methods of a class. Every function becomes a method under its
own name or under the one that an entry gives it, unless an entry skips it. A skipped function
may have any signature, but even its name must be one that scripts could use.

`MethodBlock.table` checks the block, rule by rule in a fixed order, and lists the methods.
-/

namespace ObjectPath

/-! ## Source blocks -/

/-- A function of a block. -/
structure FunctionItem where
  name : String
  /-- The receiver as it is written, if there is one. -/
  receiver : Option String
  params : List SourceType
  result : Option SourceType
  generics : List String
  isAsync : Bool
  isUnsafe : Bool
  attributes : List Attribute
deriving DecidableEq

/-- An item of a block; constants and the like are not methods. -/
inductive BlockItem where
  | function (f : FunctionItem)
  | other (name : String)
deriving DecidableEq

/-- A block of functions for a type. -/
structure MethodBlock where
  self : SourceType
  /-- The trait that the block implements, if it implements one. -/
  forTrait : Option String
  generics : List String
  /-- The entries of the block itself. -/
  entries : List Entry
  items : List BlockItem
deriving DecidableEq

/-- The functions of the block, in order. -/
def MethodBlock.functions (b : MethodBlock) : List FunctionItem :=
  b.items.filterMap fun
    | .function f => some f
    | .other _ => none

/-! ## Names -/

/-- What the entries of a function ask for. -/
structure FunctionOptions where
  /-- The name for scripts. -/
  name : String
  skip : Bool
deriving DecidableEq

/-- What is asked for with one more entry; of several names, the last one counts. -/
def FunctionOptions.apply (o : FunctionOptions) (e : Entry) :
    Except DeclarationError FunctionOptions :=
  match e.key with
  | "name" => do
    let text ← e.setting
    .ok { o with name := text }
  | "skip" => e.flag { o with skip := true }
  | _ => .error .unknownMethodEntry

/-- The characters that a method name cannot have, because they end a name in a script. -/
def nameStops : List Char := ['.', '(', ')', ',']

/-- The text can be the name of a method. -/
def isMethodName (name : String) : Bool :=
  !name.isEmpty && name.toList.all fun c => !nameStops.contains c

/-- Model of `take_method_attrs`: the entries of a function, with a name that scripts can use. -/
def FunctionItem.options (f : FunctionItem) : Except DeclarationError FunctionOptions := do
  let options ← (entriesOf f.attributes).foldlM FunctionOptions.apply ⟨f.name, false⟩
  if isMethodName options.name then .ok options else .error .badMethodName

/-! ## Signatures -/

/-- Model of `ReflectedMethod`: a method as the table lists it. -/
structure MethodPlan where
  /-- The name for scripts. -/
  name : String
  receiver : Receiver
  params : List SourceType
  /-- The function returns a value or raises an error. -/
  fallible : Bool
  /-- The name of the function. -/
  calls : String
deriving DecidableEq

namespace MethodPlan

/-- What a method of the given receiver kind does, from a function of the receiver and the
    arguments that says what is returned and how the receiver is left. -/
def bodyOf (run : Value → List Value → Except String Value × Value) : Receiver → Body
  | .static => .static fun args => (run .unit args).1
  | .shared => .shared fun v args => (run v args).1
  | .mutable => .mutable run

theorem receiver_bodyOf (run : Value → List Value → Except String Value × Value) (r : Receiver) :
    (bodyOf run r).receiver = r := by
  cases r <;> rfl

/-- Model of `method_info_tokens`: the method of the type `self`, given the types that the
    parameters' types stand for. -/
def declare (p : MethodPlan) (self : Ty) (tyOf : SourceType → Ty)
    (run : Value → List Value → Except String Value × Value) : Method :=
  .of p.name self (p.params.map tyOf) (bodyOf run p.receiver)

end MethodPlan

/-- The way the function takes its receiver. -/
def FunctionItem.receiverKind (f : FunctionItem) : Except DeclarationError Receiver :=
  match f.receiver with
  | none => .ok .static
  | some text =>
    match Receiver.ofText? text with
    | some receiver => .ok receiver
    | none => .error .badReceiver

/-- Model of `parse_method`: the function as a method of the given name. -/
def FunctionItem.method (f : FunctionItem) (name : String) : Except DeclarationError MethodPlan :=
  if f.generics ≠ [] then .error .genericMethod
  else if f.isAsync then .error .asyncMethod
  else if f.isUnsafe then .error .unsafeMethod
  else do
    let receiver ← f.receiverKind
    if f.params.any SourceType.isBorrowed then .error .badParameter
    else if f.result.any SourceType.isBorrowed then .error .badResult
    else .ok ⟨name, receiver, f.params, f.result.any SourceType.isResult, f.name⟩

/-- The function as a method, unless it is skipped. -/
def FunctionItem.plan (f : FunctionItem) : Except DeclarationError (Option MethodPlan) := do
  let options ← f.options
  if options.skip then .ok none else (f.method options.name).map some

/-! ## Tables -/

/-- The methods of a block. -/
structure MethodTable where
  cratePath : Option SourcePath
  methods : List MethodPlan
deriving DecidableEq

/-- Model of `parse_meta` of `MethodsArgs`: where the traits of a block are found, with one more
    entry. -/
def applyBlockEntry (_ : Option SourcePath) (e : Entry) :
    Except DeclarationError (Option SourcePath) :=
  match e.key with
  | "crate_path" => do
    let text ← e.setting
    let path ← SourcePath.read text
    .ok (some path)
  | _ => .error .unknownBlockEntry

namespace MethodBlock

/-- The methods of the functions, in order. -/
def planAll : List FunctionItem → Except DeclarationError (List MethodPlan)
  | [] => .ok []
  | f :: rest => do
    let first ← f.plan
    let others ← planAll rest
    .ok (first.toList ++ others)

/-- Model of `impl_reflect_methods`. The table of the block: first the entries of the block are
    checked, then that it implements no trait and is not generic, then the functions one after the
    other. -/
def table (b : MethodBlock) : Except DeclarationError MethodTable := do
  let cratePath ← b.entries.foldlM applyBlockEntry none
  if b.forTrait.isSome then .error .blockOfTrait
  else if b.generics ≠ [] then .error .genericBlock
  else
    let methods ← planAll b.functions
    .ok ⟨cratePath, methods⟩

/-- All functions of the block, each with the number of attributes that are left on it. -/
def kept (b : MethodBlock) : List (String × Nat) :=
  b.functions.map fun f => (f.name, (othersOf f.attributes).length)

end MethodBlock

/-- The trait that the table implements. -/
def MethodTable.ofTrait (t : MethodTable) : String :=
  (t.cratePath.getD defaultCrate).text ++ "::info::ReflectMethods"

end ObjectPath
