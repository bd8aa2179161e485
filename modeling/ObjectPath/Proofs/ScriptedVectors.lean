import ObjectPath.Gallery
import ObjectPath.Reflector
import ObjectPath.Proofs.StaticEntry

/-!
# Vectors in scripts

A vector is filled, read and measured by scripts of one call each: `push(%1)`, `get(%1)`, `len()`
and `is_empty()`. Each script is read and evaluated on its own, with methods found by the types of
the arguments, and all that one script leaves to the next one is the vector.

To such scripts a vector is a list. `VectorCall.answer` says what a call answers on a list of items,
and `VectorCall.added?` what it puts at the end of the list. Both speak of clones of arguments and
items, and of values wrapped to fit an optional type, but not of methods, placeholders or places.

Results:
* `Ty.converts_wrapped`: an accepted value becomes a value of the type by one layer at most.
* `Schema.method?_vector`: which method of a vector is called.
* `Reflector.perform_push`, `Reflector.perform_get`, `Reflector.perform_len`,
  `Reflector.perform_isEmpty`: one script is one step on the list.
* `Reflector.vectors_behave_as_lists`: any number of scripts.
-/

namespace ObjectPath

/-! ## Calls on lists -/

/-- A script that calls one method of a vector, with its argument. -/
inductive VectorCall where
  | push (arg : Value)
  | get (arg : Value)
  | len
  | isEmpty

/-- An accepted value as a value of the type. At an optional type null is the missing value, and
    what is not optional is made present. -/
def Ty.wrapped : Ty → Value → Value
  | .optional inner, v =>
    if v.ty = .optional inner then v else if v = .null then .absent inner else .present v
  | _, v => v

/-- The position that the value is, if it is a machine word. -/
def Value.asIndex? : Value → Option Nat
  | .int .usize n => some n.toNat
  | _ => none

namespace VectorCall

/-- The name of the method. -/
def name : VectorCall → String
  | push _ => "push"
  | get _ => "get"
  | len => "len"
  | isEmpty => "is_empty"

/-- The text of the script. -/
def script : VectorCall → String
  | push _ => "push(%1)"
  | get _ => "get(%1)"
  | len => "len()"
  | isEmpty => "is_empty()"

/-- The arguments of the script. -/
def args : VectorCall → List Value
  | push arg | get arg => [arg]
  | len | isEmpty => []

/-- What is put at the end of a list of items of the type: a clone of what is pushed, if there is
    one and the type accepts it. -/
def added? (S : Schema) (element : Ty) : VectorCall → Option Value
  | push arg =>
    if element.accepts arg.ty then (S.clone arg).toOption.map element.wrapped else none
  | _ => none

/-- What the calls put at the end of a list, one after the other. -/
def pushed (S : Schema) (element : Ty) (calls : List VectorCall) : List Value :=
  calls.filterMap (added? S element)

theorem pushed_cons (S : Schema) (element : Ty) (c : VectorCall)
    (rest : List VectorCall) : pushed S element (c :: rest) =
      (c.added? S element).toList ++ pushed S element rest := by
  rw [pushed, List.filterMap_eq_flatMap_toList, List.flatMap_cons,
    ← List.filterMap_eq_flatMap_toList]
  rfl

/-- The answer of a call that finds no method for its argument. -/
def unknown (element : Ty) (c : VectorCall) : Except ScriptError Value :=
  .error (.memberNotFound (Ty.vector element).path c.name c.script)

/-- The clone of the call's argument, without which no method is looked for. -/
def bound (S : Schema) (element : Ty) (c : VectorCall) (arg : Value) : Except ScriptError Value :=
  match S.clone arg with
  | .ok copy => .ok copy
  | .error _ =>
    .error (.invalidScript (Ty.vector element).path c.script (.argumentNotCloneable 1))

/-- A clone of the item at the position, or the missing value if there are fewer items. -/
def itemAt (S : Schema) (element : Ty) (items : List Value) (index : Nat) :
    Except ScriptError Value :=
  match items[index]? with
  | none => .ok (.absent element)
  | some item =>
    match S.clone item with
    | .ok copy => .ok (.present copy)
    | .error e =>
      .error (.invocationFault (Ty.vector element).path "get" "get(%1)" (.raised e.message))

/-- What the call answers on a list of items of the type. -/
def answer (S : Schema) (element : Ty) (items : List Value) : VectorCall → Except ScriptError Value
  | push arg => do
    let _ ← bound S element (.push arg) arg
    if element.accepts arg.ty then .ok .unit else unknown element (.push arg)
  | get arg => do
    let _ ← bound S element (.get arg) arg
    match arg.asIndex? with
    | some index => itemAt S element items index
    | none => unknown element (.get arg)
  | len => .ok (.size items.length)
  | isEmpty => .ok (.bool items.isEmpty)

end VectorCall

namespace Reflector

/-- Evaluates the script of the call, with arguments of the types of their values. -/
def perform (R : Reflector) (target : Value) (c : VectorCall) : Outcome :=
  R.reflect target c.script c.args none

/-- The results of evaluating the scripts one after the other, and the target as it is then. -/
def performAll (R : Reflector) : Value → List VectorCall → List (Except ScriptError Value) × Value
  | target, [] => ([], target)
  | target, c :: rest =>
    let done := R.perform target c
    let others := R.performAll done.target rest
    (done.result :: others.1, others.2)

end Reflector

/-! ## Accepted values -/

theorem Ty.wrapped_self (v : Value) : v.ty.wrapped v = v := by
  cases hty : v.ty with
  | optional inner => rw [wrapped, if_pos hty]
  | _ => rfl

theorem Ty.converts_wrapped {param : Ty} {v : Value} (h : param.accepts v.ty = true) :
    Converts param v (param.wrapped v) := by
  rw [accepts, Bool.or_eq_true, beq_iff_eq] at h
  rcases h with rfl | h
  · rw [wrapped_self]
    exact .same v
  · cases param with
    | optional inner =>
      simp only [inner?, Bool.or_eq_true, beq_iff_eq] at h
      rw [wrapped]
      by_cases hsame : v.ty = .optional inner
      · rw [if_pos hsame, ← hsame]
        exact .same v
      · rw [if_neg hsame]
        by_cases hnull : v = .null
        · rw [if_pos hnull, hnull]
          exact .null inner
        · rw [if_neg hnull]
          obtain rfl := h.resolve_left fun hty => hnull (Value.ty_eq_null_iff.1 hty)
          exact .wrap hnull (.same v)
    | _ => cases h

theorem accepts_single {m : Method} {param : Ty} (h : m.params = [param]) (arg : Ty) :
    m.accepts [arg] = param.accepts arg := by
  simp [Method.accepts, h]

/-- A single argument of an accepted type becomes the wrapped one and nothing else. -/
theorem ConvertsAll.eq_wrapped {param : Ty} {v : Value} {converted : List Value}
    (h : ConvertsAll [param] [v] converted) (haccepts : param.accepts v.ty = true) :
    converted = [param.wrapped v] := by
  cases h with
  | cons hfirst hrest =>
    cases hrest
    have hwrapped := (Ty.converts_wrapped haccepts).convert?
    rw [hfirst.convert?, Option.some.injEq] at hwrapped
    rw [hwrapped]

theorem Value.asIndex?_eq_some_iff {v : Value} {index : Nat} :
    v.asIndex? = some index ↔ ∃ n, v = .int .usize n ∧ n.toNat = index := by
  cases v with
  | int kind n => cases kind <;> simp [asIndex?]
  | _ => simp [asIndex?]

theorem Value.accepts_usize_iff {v : Value} :
    (Ty.int .usize).accepts v.ty = true ↔ ∃ index, v.asIndex? = some index := by
  cases v with
  | int kind n => cases kind <;> simp [Ty.accepts, Ty.inner?, Value.ty, asIndex?]
  | _ => simp [Ty.accepts, Ty.inner?, Value.ty, asIndex?]

namespace Schema

variable {S : Schema} {element : Ty}

/-! ## Methods of vectors -/

theorem resolveMethod_vector (S : Schema) (element : Ty) (name : String) (types : List Ty) :
    S.resolveMethod .typeAware (.vector element) name types =
      ((S.classOf (.vector element)).method? name types).map (Found.mk (.vector element) 0) := by
  have hself : S.ancestors (.vector element) = [.vector element] :=
    ancestors_of_builtin (fun id h => nomatch h)
  rw [resolveMethod, findUp, hself]
  simp

/-- The methods of a vector have different names. -/
theorem method?_vector {m : Method} (hm : m ∈ vectorMethods S element) (types : List Ty) :
    (S.classOf (.vector element)).method? m.name types =
      if m.accepts types then some m else none := by
  have hown : (S.classOf (.vector element)).methodsNamed m.name = [m] := by
    simp only [vectorMethods, List.mem_cons, List.not_mem_nil, or_false] at hm
    rcases hm with rfl | rfl | rfl | rfl <;> rfl
  rw [Class.method?, hown, List.find?_singleton]

end Schema

/-! ## Scripts of one call -/

namespace VectorCall

theorem one_lt_wordSize : 1 < wordSize := by decide

/-- The placeholder of a script's only argument. -/
def only : Placeholder := ⟨1, Nat.one_pos, one_lt_wordSize⟩

/-- The placeholders of the script. -/
def params : VectorCall → List Placeholder
  | push _ | get _ => [only]
  | len | isEmpty => []

/-- The position of the method among those of a vector. -/
def position : VectorCall → Fin 4
  | len => 0
  | isEmpty => 1
  | get _ => 2
  | push _ => 3

/-- The method that the script is about. -/
def method (S : Schema) (element : Ty) (c : VectorCall) : Method :=
  (vectorMethods S element).get c.position

theorem method_mem (S : Schema) (element : Ty) (c : VectorCall) :
    c.method S element ∈ vectorMethods S element :=
  List.get_mem _ _

theorem name_method (S : Schema) (element : Ty) (c : VectorCall) :
    (c.method S element).name = c.name := by
  cases c <;> rfl

theorem parse_script (c : VectorCall) :
    Script.parse c.script = .ok ⟨c.script, [⟨0, .call c.name c.params⟩]⟩ := by
  cases c with
  | push arg =>
    exact (by decide +kernel :
      Script.parse "push(%1)" = .ok ⟨"push(%1)", [⟨0, .call "push" [only]⟩]⟩)
  | get arg =>
    exact (by decide +kernel :
      Script.parse "get(%1)" = .ok ⟨"get(%1)", [⟨0, .call "get" [only]⟩]⟩)
  | len =>
    exact (by decide +kernel : Script.parse "len()" = .ok ⟨"len()", [⟨0, .call "len" []⟩]⟩)
  | isEmpty =>
    exact (by decide +kernel :
      Script.parse "is_empty()" = .ok ⟨"is_empty()", [⟨0, .call "is_empty" []⟩]⟩)

theorem trimmed_script (c : VectorCall) : Text.trimmed c.script = c.script := by
  cases c with
  | push arg => exact (by decide +kernel : Text.trimmed "push(%1)" = "push(%1)")
  | get arg => exact (by decide +kernel : Text.trimmed "get(%1)" = "get(%1)")
  | len => exact (by decide +kernel : Text.trimmed "len()" = "len()")
  | isEmpty => exact (by decide +kernel : Text.trimmed "is_empty()" = "is_empty()")

/-- The script of a call as it is evaluated. -/
def evaluation (R : Reflector) (c : VectorCall) : Evaluation :=
  R.evaluation ⟨c.script, [⟨0, .call c.name c.params⟩]⟩ (.ofValues c.args)

theorem bind_only (S : Schema) (arg : Value) : (Arguments.ofValues [arg]).bind S [only] =
    match S.clone arg with
    | .ok copy => .ok ⟨[⟨copy, arg.ty⟩]⟩
    | .error _ => .error (.argumentNotCloneable 1) := by
  have hone : (Arguments.ofValues [arg]).bindOne S only =
      match S.clone arg with
      | .ok copy => .ok ⟨copy, arg.ty⟩
      | .error _ => .error (.argumentNotCloneable 1) := rfl
  rw [Arguments.bind, List.mapM_cons, List.mapM_nil, hone]
  cases S.clone arg <;> rfl

end VectorCall

namespace Reflector

variable {R : Reflector} {element : Ty} {items : List Value} {c : VectorCall} {call : BoundCall}

theorem compile_script (R : Reflector) (cls : String) (c : VectorCall) :
    R.compile cls c.script = .ok ⟨c.script, [⟨0, .call c.name c.params⟩]⟩ := by
  have hprepared : R.options.prepare c.script = c.script := by
    rw [ScriptOptions.prepare, c.trimmed_script, ite_self]
  rw [compile, hprepared, c.parse_script]
  rfl

/-- The script does to the vector what the body of the method does, and nothing more. -/
def RunsBody (R : Reflector) (element : Ty) (items : List Value) (c : VectorCall)
    (converted : List Value) : Prop :=
  let done := (c.method R.schema element).body.run c.name (some (.vector element items)) converted
  (R.perform (.vector element items) c).result =
      done.outcome.mapError (.invocationFault (Ty.vector element).path c.name c.script) ∧
    (R.perform (.vector element items) c).target = done.receiver.getD (.vector element items)

/-- A script of one call does what the call does. -/
theorem perform_eq (R : Reflector) (element : Ty) (items : List Value) (c : VectorCall) :
    (R.perform (.vector element items) c).result = ((c.evaluation R).call (.vector element)
        (some (.vector element items)) c.name c.params).result ∧
      (R.perform (.vector element items) c).target = ((c.evaluation R).call (.vector element)
        (some (.vector element items)) c.name c.params).receiver.getD (.vector element items) := by
  have hrun : R.perform (.vector element items) c =
      (c.evaluation R).evaluate (.vector element items) none := by
    rw [perform, reflect, run, compile_script]
    rfl
  obtain ⟨hresult, htarget⟩ := Evaluation.evaluate_of_call (E := c.evaluation R)
    (v := .vector element items) rfl rfl rfl
  rw [hrun]
  refine ⟨hresult.trans ?_, htarget⟩
  simp only [if_true]
  exact bind_pure (m := Except ScriptError) _

/-- A script whose argument cannot be cloned does nothing. -/
theorem perform_unbound {reason : Reason}
    (hbind : (Arguments.ofValues c.args).bind R.schema c.params = .error reason) :
    (R.perform (.vector element items) c).result =
        .error (.invalidScript (Ty.vector element).path c.script reason) ∧
      (R.perform (.vector element items) c).target = .vector element items := by
  obtain ⟨hresult, htarget⟩ := R.perform_eq element items c
  have hcall : (c.evaluation R).call (.vector element) (some (.vector element items)) c.name
      c.params = ⟨.error (.invalidScript (Ty.vector element).path c.script reason),
        some (.vector element items), []⟩ :=
    Evaluation.call_of_unbound (E := c.evaluation R) hbind _ _
  rw [hresult, htarget, hcall]
  exact ⟨rfl, rfl⟩

section TypeAware

variable (hlookup : R.options.lookup = .typeAware)
  (hbind : (Arguments.ofValues c.args).bind R.schema c.params = .ok call)

include hlookup

theorem resolveMethod_eq (types : List Ty) :
    R.schema.resolveMethod (c.evaluation R).lookup (.vector element) c.name types =
      if (c.method R.schema element).accepts types
      then some ⟨.vector element, 0, c.method R.schema element⟩ else none := by
  show R.schema.resolveMethod R.options.lookup _ _ _ = _
  rw [hlookup, Schema.resolveMethod_vector, ← c.name_method R.schema element,
    Schema.method?_vector (c.method_mem R.schema element)]
  split <;> rfl

include hbind

/-- A script whose argument is not accepted does nothing. -/
theorem perform_unknown (hrefused : ¬ (c.method R.schema element).accepts call.types = true) :
    (R.perform (.vector element items) c).result = c.unknown element ∧
      (R.perform (.vector element items) c).target = .vector element items := by
  have hnone : R.schema.resolveMethod (c.evaluation R).lookup (.vector element) c.name call.types =
      none := by
    rw [resolveMethod_eq hlookup, if_neg hrefused]
  obtain ⟨hresult, htarget⟩ := R.perform_eq element items c
  have hcall := Evaluation.call_of_unresolved (E := c.evaluation R) hbind hnone
    (some (.vector element items))
  rw [hresult, htarget, hcall]
  exact ⟨rfl, rfl⟩

/-- A script whose argument is accepted runs the body of the method on the converted argument. -/
theorem perform_found (htypes : call.types = call.values.map Value.ty)
    (haccepts : (c.method R.schema element).accepts call.types = true) (items : List Value) :
    ∃ converted, ConvertsAll (c.method R.schema element).params call.values converted ∧
      R.RunsBody element items c converted := by
  have hfound : R.schema.resolveMethod (c.evaluation R).lookup (.vector element) c.name
      call.types = some ⟨.vector element, 0, c.method R.schema element⟩ := by
    rw [resolveMethod_eq hlookup, if_pos haccepts]
  have hconsistent : (c.method R.schema element).Consistent (.vector element) :=
    consistent_builtinMethods R.schema (.vector element) _ (c.method_mem R.schema element)
  rw [htypes] at haccepts
  obtain ⟨converted, hall, hruns⟩ :=
    Method.invoke_of_accepts (v := .vector element items) hconsistent haccepts
  rw [c.name_method] at hruns
  obtain ⟨hresult, htarget⟩ := R.perform_eq element items c
  have hcall := Evaluation.call_some (E := c.evaluation R) (v := .vector element items) hbind
    hfound rfl
  rw [hcall] at hresult htarget
  refine ⟨converted, hall, ?_, ?_⟩
  · rw [← hruns]
    exact hresult
  · rw [← hruns]
    exact htarget

end TypeAware

section OneArgument

variable {arg copy : Value} {param : Ty} (hargs : c.args = [arg])

include hargs

theorem params_eq_only : c.params = [VectorCall.only] := by
  cases c with
  | push _ | get _ => rfl
  | len | isEmpty => cases hargs

/-- A script whose argument cannot be cloned says so and does nothing. -/
theorem perform_uncloneable {e : CloneError} (hclone : R.schema.clone arg = .error e)
    (element : Ty) (items : List Value) :
    (R.perform (.vector element items) c).result = c.bound R.schema element arg ∧
      (R.perform (.vector element items) c).target = .vector element items := by
  have hbind : (Arguments.ofValues c.args).bind R.schema c.params =
      .error (.argumentNotCloneable 1) := by
    rw [hargs, params_eq_only hargs, VectorCall.bind_only, hclone]
  rw [VectorCall.bound, hclone]
  exact perform_unbound hbind

variable (hlookup : R.options.lookup = .typeAware) (hclone : R.schema.clone arg = .ok copy)
  (hparams : (c.method R.schema element).params = [param])

include hclone

theorem bind_of_clone :
    (Arguments.ofValues c.args).bind R.schema c.params = .ok ⟨[⟨copy, arg.ty⟩]⟩ := by
  rw [hargs, params_eq_only hargs, VectorCall.bind_only, hclone]

include hlookup hparams

theorem perform_refused (hrefused : ¬ param.accepts arg.ty = true) (items : List Value) :
    (R.perform (.vector element items) c).result = c.unknown element ∧
      (R.perform (.vector element items) c).target = .vector element items := by
  have hbind := bind_of_clone hargs hclone
  refine perform_unknown hlookup hbind ?_
  show ¬ (c.method R.schema element).accepts [arg.ty] = true
  rw [accepts_single hparams]
  exact hrefused

theorem perform_accepted (haccepts : param.accepts arg.ty = true) (items : List Value) :
    R.RunsBody element items c [param.wrapped copy] := by
  have hbind := bind_of_clone hargs hclone
  have hty : copy.ty = arg.ty := Schema.ty_of_clone hclone
  have htypes : [arg.ty] = [copy].map Value.ty := by rw [List.map_singleton, hty]
  have hmethod : (c.method R.schema element).accepts [arg.ty] = true := by
    rw [accepts_single hparams]
    exact haccepts
  obtain ⟨converted, hall, hruns⟩ := perform_found hlookup hbind htypes hmethod items
  rw [hparams] at hall
  obtain rfl := hall.eq_wrapped (hty ▸ haccepts)
  exact hruns

end OneArgument

/-- A script without an argument runs the body of the method. -/
theorem perform_plain (hlookup : R.options.lookup = .typeAware) (element : Ty) (hargs : c.args = [])
    (hparams : (c.method R.schema element).params = []) (items : List Value) :
    R.RunsBody element items c [] := by
  have hbind : (Arguments.ofValues c.args).bind R.schema c.params = .ok ⟨[]⟩ := by
    cases c with
    | push _ | get _ => cases hargs
    | len | isEmpty => rfl
  have hmethod : (c.method R.schema element).accepts [] = true := by
    rw [Method.accepts, hparams]
    rfl
  obtain ⟨converted, hall, hruns⟩ := perform_found hlookup hbind rfl hmethod items
  rw [hparams] at hall
  cases hall
  exact hruns

/-! ## One script -/

/-- The script answers as on the list of the items, and leaves behind the list with what the call
    puts at its end. -/
def StepsAsList (R : Reflector) (element : Ty) (items : List Value) (c : VectorCall) : Prop :=
  (R.perform (.vector element items) c).result = c.answer R.schema element items ∧
    (R.perform (.vector element items) c).target =
      .vector element (items ++ (c.added? R.schema element).toList)

theorem perform_push (hlookup : R.options.lookup = .typeAware) (element : Ty) (items : List Value)
    (arg : Value) : R.StepsAsList element items (.push arg) := by
  rw [StepsAsList, VectorCall.answer, VectorCall.added?]
  cases hclone : R.schema.clone arg with
  | error e =>
    obtain ⟨hresult, htarget⟩ := perform_uncloneable (c := .push arg) rfl hclone element items
    rw [hresult, htarget, VectorCall.bound, hclone]
    refine ⟨rfl, ?_⟩
    split <;> exact congrArg _ (List.append_nil items).symm
  | ok copy =>
    have hbound : (VectorCall.push arg).bound R.schema element arg = .ok copy := by
      rw [VectorCall.bound, hclone]
    rw [hbound]
    by_cases haccepts : element.accepts arg.ty = true
    · obtain ⟨hresult, htarget⟩ :=
        perform_accepted (c := .push arg) rfl hlookup hclone rfl haccepts items
      rw [hresult, htarget, if_pos haccepts, if_pos haccepts]
      exact ⟨rfl, rfl⟩
    · obtain ⟨hresult, htarget⟩ :=
        perform_refused (c := .push arg) rfl hlookup hclone rfl haccepts items
      rw [hresult, htarget, if_neg haccepts, if_neg haccepts]
      exact ⟨rfl, congrArg _ (List.append_nil items).symm⟩

theorem perform_get (hlookup : R.options.lookup = .typeAware) (element : Ty) (items : List Value)
    (arg : Value) : R.StepsAsList element items (.get arg) := by
  have hkept : items ++ ((VectorCall.get arg).added? R.schema element).toList = items :=
    List.append_nil items
  rw [StepsAsList, VectorCall.answer, hkept]
  cases hclone : R.schema.clone arg with
  | error e =>
    obtain ⟨hresult, htarget⟩ := perform_uncloneable (c := .get arg) rfl hclone element items
    rw [hresult, htarget, VectorCall.bound, hclone]
    exact ⟨rfl, rfl⟩
  | ok copy =>
    have hbound : (VectorCall.get arg).bound R.schema element arg = .ok copy := by
      rw [VectorCall.bound, hclone]
    rw [hbound]
    cases hindex : arg.asIndex? with
    | none =>
      have hrefused : ¬ (Ty.int .usize).accepts arg.ty = true := by
        rw [Value.accepts_usize_iff, hindex]
        simp
      obtain ⟨hresult, htarget⟩ :=
        perform_refused (c := .get arg) rfl hlookup hclone rfl hrefused items
      rw [hresult, htarget]
      exact ⟨rfl, rfl⟩
    | some index =>
      have haccepts : (Ty.int .usize).accepts arg.ty = true :=
        Value.accepts_usize_iff.2 ⟨index, hindex⟩
      obtain ⟨hresult, htarget⟩ :=
        perform_accepted (c := .get arg) rfl hlookup hclone rfl haccepts items
      obtain ⟨n, rfl, rfl⟩ := Value.asIndex?_eq_some_iff.1 hindex
      cases hclone
      rw [hresult, htarget]
      refine ⟨?_, rfl⟩
      show Except.mapError _ (Except.mapError InvokeError.raised (match items[n.toNat]? with
        | none => .ok (.absent element)
        | some item =>
          match R.schema.clone item with
          | .ok copy => .ok (.present copy)
          | .error e => .error e.message)) = VectorCall.itemAt R.schema element items n.toNat
      rw [VectorCall.itemAt]
      cases items[n.toNat]? with
      | none => rfl
      | some item =>
        dsimp only
        cases R.schema.clone item <;> rfl

theorem perform_len (hlookup : R.options.lookup = .typeAware) (element : Ty)
    (items : List Value) : R.StepsAsList element items .len := by
  obtain ⟨hresult, htarget⟩ :=
    perform_plain (c := .len) hlookup element rfl rfl items
  exact ⟨hresult, htarget.trans (congrArg _ (List.append_nil items).symm)⟩

theorem perform_isEmpty (hlookup : R.options.lookup = .typeAware) (element : Ty)
    (items : List Value) : R.StepsAsList element items .isEmpty := by
  obtain ⟨hresult, htarget⟩ :=
    perform_plain (c := .isEmpty) hlookup element rfl rfl items
  exact ⟨hresult, htarget.trans (congrArg _ (List.append_nil items).symm)⟩

/-- One script is one step on the list. -/
theorem stepsAsList (hlookup : R.options.lookup = .typeAware) (element : Ty)
    (items : List Value) (c : VectorCall) : R.StepsAsList element items c := by
  cases c with
  | push arg => exact perform_push hlookup element items arg
  | get arg => exact perform_get hlookup element items arg
  | len => exact perform_len hlookup element items
  | isEmpty => exact perform_isEmpty hlookup element items

/-! ## Any number of scripts -/

theorem target_performAll (hlookup : R.options.lookup = .typeAware) (element : Ty)
    (initial : List Value) (calls : List VectorCall) :
    (R.performAll (.vector element initial) calls).2 =
      .vector element (initial ++ VectorCall.pushed R.schema element calls) := by
  induction calls generalizing initial with
  | nil =>
    show Value.vector element initial = .vector element (initial ++ [])
    rw [List.append_nil]
  | cons c rest ih =>
    obtain ⟨-, htarget⟩ := stepsAsList hlookup element initial c
    rw [performAll, htarget, ih, List.append_assoc, ← VectorCall.pushed_cons]

theorem length_performAll (R : Reflector) (target : Value) (calls : List VectorCall) :
    (R.performAll target calls).1.length = calls.length := by
  induction calls generalizing target with
  | nil => rfl
  | cons c rest ih => rw [performAll, List.length_cons, ih, List.length_cons]

/-- A script in a row answers as on the list that the scripts in front of it leave behind. -/
theorem result_performAll (hlookup : R.options.lookup = .typeAware) (element : Ty)
    (initial : List Value) (before : List VectorCall) (c : VectorCall) (after : List VectorCall) :
    (R.performAll (.vector element initial) (before ++ c :: after)).1[before.length]? =
      some (c.answer R.schema element
        (initial ++ VectorCall.pushed R.schema element before)) := by
  induction before generalizing initial with
  | nil =>
    obtain ⟨hresult, -⟩ := stepsAsList hlookup element initial c
    show some _ = some (c.answer R.schema element (initial ++ []))
    rw [List.append_nil, ← hresult]
  | cons first rest ih =>
    obtain ⟨-, htarget⟩ := stepsAsList hlookup element initial first
    rw [List.cons_append, performAll, htarget, List.length_cons, List.getElem?_cons_succ, ih,
      List.append_assoc, ← VectorCall.pushed_cons]

/-- To scripts of one call, with methods found by the types of the arguments, a vector is a list.
    Whatever was called so far, it holds the items it began with and then the values pushed, in
    order: a clone of each one that can be cloned and is accepted, wrapped to fit an optional type.
    Each call answers as on the list that the calls in front of it leave behind. -/
theorem vectors_behave_as_lists (hlookup : R.options.lookup = .typeAware) (element : Ty)
    (initial : List Value) (calls : List VectorCall) :
    (R.performAll (.vector element initial) calls).2 =
      .vector element (initial ++ VectorCall.pushed R.schema element calls) ∧
    (R.performAll (.vector element initial) calls).1.length = calls.length ∧
    ∀ before c after, calls = before ++ c :: after →
      (R.performAll (.vector element initial) calls).1[before.length]? =
        some (c.answer R.schema element
          (initial ++ VectorCall.pushed R.schema element before)) := by
  refine ⟨target_performAll hlookup element initial calls, length_performAll R _ calls, ?_⟩
  rintro before c after rfl
  exact result_performAll hlookup element initial before c after

end Reflector

/-! ## Numbers that may be missing, and handles -/

namespace Sample

/-- Scripts for the gallery. -/
def reader : Reflector := ⟨gallery, .standard, none⟩

/-- Calls on a vector of numbers that may be missing, one of them with a text. -/
def numberCalls : List VectorCall :=
  [.push (.int .i32 5), .push .null, .push (.string "5"), .get (.size 2), .get (.size 9), .len]

/-- Calls on a vector of handles, which cannot be cloned. -/
def handleCalls : List VectorCall := [.push Gallery.handle.initial, .get (.size 0), .isEmpty]

/-- What calling and reading come to for a vector of numbers that may be missing. -/
def numbersRead : List (Except ScriptError Value) × Value :=
  reader.performAll (.vector (.optional (.int .i32)) [.present (.int .i32 7)]) numberCalls

/-- What calling and reading come to for a vector of handles. -/
def handlesRead : List (Except ScriptError Value) × Value :=
  reader.performAll (.vector Gallery.handle.objects [Gallery.handle.initial]) handleCalls

/-- A number and null are pushed, and a text is not. The item that null became is read as a missing
    number that is there, unlike a position behind the last item. A handle can neither be pushed nor
    read. -/
theorem numbers_and_handles_are_listed :
    reader.options.lookup = .typeAware ∧
    numbersRead.2 = .vector (.optional (.int .i32))
      [.present (.int .i32 7), .present (.int .i32 5), .absent (.int .i32)] ∧
    numbersRead.1[2]? = some (.error
      (.memberNotFound "alloc::vec::Vec<core::option::Option<i32>>" "push" "push(%1)")) ∧
    numbersRead.1[3]? = some (.ok (.present (.absent (.int .i32)))) ∧
    numbersRead.1[4]? = some (.ok (.absent (.optional (.int .i32)))) ∧
    numbersRead.1[5]? = some (.ok (.size 3)) ∧
    handlesRead.2 = .vector Gallery.handle.objects [Gallery.handle.initial] ∧
    handlesRead.1[0]? = some (.error
      (.invalidScript "alloc::vec::Vec<sys::Handle>" "push(%1)" (.argumentNotCloneable 1))) ∧
    handlesRead.1[1]? = some (.error
      (.invocationFault "alloc::vec::Vec<sys::Handle>" "get" "get(%1)"
        (.raised "`sys::Handle` values cannot be cloned"))) := by
  have hlookup : reader.options.lookup = .typeAware := rfl
  obtain ⟨hnumbers, -, hanswer⟩ := Reflector.vectors_behave_as_lists hlookup
    (.optional (.int .i32)) [.present (.int .i32 7)] numberCalls
  obtain ⟨hhandles, -, hhandle⟩ := Reflector.vectors_behave_as_lists hlookup
    Gallery.handle.objects [Gallery.handle.initial] handleCalls
  refine ⟨hlookup, hnumbers, ?_, ?_, ?_, ?_, hhandles, ?_, ?_⟩
  · exact hanswer (numberCalls.take 2) (.push (.string "5")) (numberCalls.drop 3) rfl
  · exact hanswer (numberCalls.take 3) (.get (.size 2)) (numberCalls.drop 4) rfl
  · exact hanswer (numberCalls.take 4) (.get (.size 9)) (numberCalls.drop 5) rfl
  · exact hanswer (numberCalls.take 5) .len [] rfl
  · exact hhandle [] (.push Gallery.handle.initial) (handleCalls.drop 1) rfl
  · exact hhandle (handleCalls.take 1) (.get (.size 0)) (handleCalls.drop 2) rfl

end Sample

end ObjectPath
