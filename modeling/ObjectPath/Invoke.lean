import ObjectPath.Convert
import ObjectPath.Method

/-!
# Invocation

Calling a method on type-erased values. The checks come in a fixed order: an instance method
needs a receiver; the number of arguments must be right; the arguments are converted one after
the other; the receiver must have the right type. Only then does the body run, so a failed check
leaves the receiver as it was.

* `Method.invoke` is the call;
* `Method.checked` is its checks by themselves, with `Method.invoke_eq`: a call is its checks, and
  then the body.
-/

namespace ObjectPath

/-- Model of `InvokeError`: why a call did not return a value. -/
inductive InvokeError where
  | missingReceiver (member : String)
  | receiverMismatch (member expected found : String)
  | argumentCount (member : String) (expected found : Nat)
  | argumentType (member : String) (index : Nat) (expected found : String)
  | raised (cause : String)
deriving DecidableEq

namespace InvokeError

/-- The text of the error. -/
def message : InvokeError → String
  | missingReceiver member => s!"`{member}` is an instance member but no instance was given"
  | receiverMismatch member expected found =>
    s!"`{member}` expects a `{expected}` receiver, found `{found}`"
  | argumentCount member expected found =>
    s!"`{member}` takes {expected} argument(s) but {found} were supplied"
  | argumentType member index expected found =>
    s!"argument {index} of `{member}` expects `{expected}`, found `{found}`"
  | raised cause => s!"method raised an error: {cause}"

/-- The text of the error that this one passes on. -/
def source? : InvokeError → Option String
  | raised cause => some cause
  | _ => none

end InvokeError

/-! ## Taking arguments -/

/-- Model of `Args`: the arguments of a call that have not been taken yet. -/
structure Intake where
  member : String
  /-- How many arguments have been taken. -/
  taken : Nat
  rest : List Value

namespace Intake

/-- Model of `new` of `Args`: all arguments of a call, which must be `expected` many. -/
def start (member : String) (values : List Value) (expected : Nat) : Except InvokeError Intake :=
  if values.length = expected then .ok ⟨member, 0, values⟩
  else .error (.argumentCount member expected values.length)

/-- Model of `take` of `Args`: takes the next argument as a value of the given type. The argument is
    used up even when it does not convert; past the end nothing changes. -/
def take (intake : Intake) (ty : Ty) : Except InvokeError Value × Intake :=
  match intake.rest with
  | [] => (.error (.argumentCount intake.member (intake.taken + 1) intake.taken), intake)
  | v :: rest =>
    (match ty.convert? v with
      | some w => .ok w
      | none => .error (.argumentType intake.member intake.taken ty.path v.ty.path),
     { intake with taken := intake.taken + 1, rest })

/-- The results of taking arguments of the given types, whether or not some fail. -/
def takeEach (intake : Intake) : List Ty → List (Except InvokeError Value)
  | [] => []
  | ty :: types => (intake.take ty).1 :: (intake.take ty).2.takeEach types

/-- Arguments of all given types, up to the first failure. -/
def takeAll (intake : Intake) : List Ty → Except InvokeError (List Value)
  | [] => .ok []
  | ty :: types =>
    match (intake.take ty).1 with
    | .ok v => ((intake.take ty).2.takeAll types).map (v :: ·)
    | .error e => .error e

end Intake

/-- Model of `receiver_ref` and `receiver_mut`: the receiver, which must be there and have the given
    type. -/
def receiverAs (member : String) (ty : Ty) : Option Value → Except InvokeError Value
  | none => .error (.missingReceiver member)
  | some v => if v.ty = ty then .ok v else .error (.receiverMismatch member ty.path v.ty.path)

/-! ## Calling -/

/-- The end of a call: what it returned, and the receiver as the call left it. -/
structure CallEnd where
  outcome : Except InvokeError Value
  receiver : Option Value

namespace Body

/-- Runs the body on checked arguments. -/
def run (body : Body) (member : String) (receiver : Option Value) (args : List Value) : CallEnd :=
  let raise (outcome : Except String Value) : Except InvokeError Value :=
    outcome.mapError InvokeError.raised
  match body, receiver with
  | .static f, _ => ⟨raise (f args), receiver⟩
  | .shared f, some v => ⟨raise (f v args), receiver⟩
  | .mutable f, some v => ⟨raise (f v args).1, some (f v args).2⟩
  | _, none => ⟨.error (.missingReceiver member), none⟩

end Body

namespace Method

/-- The arguments of a call, checked and converted. -/
def convertArgs (m : Method) (args : List Value) : Except InvokeError (List Value) := do
  let intake ← Intake.start m.name args m.arity
  intake.takeAll m.takes

/-- The receiver has the type the invoker wants. -/
def checkReceiver (m : Method) (receiver : Option Value) : Except InvokeError Unit :=
  match m.self with
  | some ty => (receiverAs m.name ty receiver).map fun _ => ()
  | none => .ok ()

/-- Model of `invoke` of `MethodInfo`: calls the method. -/
def invoke (m : Method) (receiver : Option Value) (args : List Value) : CallEnd :=
  if receiver.isNone && !m.receiver.isStatic then ⟨.error (.missingReceiver m.name), receiver⟩
  else
    match m.convertArgs args with
    | .error e => ⟨.error e, receiver⟩
    | .ok converted =>
      match m.checkReceiver receiver with
      | .error e => ⟨.error e, receiver⟩
      | .ok () => m.body.run m.name receiver converted

/-- The checks of a call in their order, and the converted arguments if all of them pass. -/
def checked (m : Method) (receiver : Option Value) (args : List Value) :
    Except InvokeError (List Value) :=
  if receiver.isNone && !m.receiver.isStatic then .error (.missingReceiver m.name)
  else do
    let converted ← m.convertArgs args
    m.checkReceiver receiver
    return converted

/-- A check that fails ends the call and leaves the receiver as it is. If none does, the call ends
    as the body ends. -/
theorem invoke_eq (m : Method) (receiver : Option Value) (args : List Value) :
    m.invoke receiver args =
      match m.checked receiver args with
      | .error e => ⟨.error e, receiver⟩
      | .ok converted => m.body.run m.name receiver converted := by
  unfold invoke checked
  split
  · rfl
  · cases m.convertArgs args with
    | error e => rfl
    | ok converted => cases m.checkReceiver receiver <;> rfl

theorem checked_eq_ok_iff {m : Method} {v : Value} {args converted : List Value} :
    m.checked (some v) args = .ok converted ↔
      m.convertArgs args = .ok converted ∧ m.checkReceiver (some v) = .ok () := by
  unfold checked
  cases m.convertArgs args with
  | error e => simp [bind, Except.bind]
  | ok values =>
    cases m.checkReceiver (some v) <;> simp [bind, Except.bind, pure, Except.pure]

end Method

end ObjectPath
