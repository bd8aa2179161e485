import ObjectPath.Eval
import ObjectPath.Proofs.Results

/-!
# Runs and the methods they invoke

A method is invoked once the arguments of a call are bound, the method is found, and the receiver
is moved up to the class that declares it. The methods that a script invokes are listed by
following its evaluation.

`Evaluation.Run` says everything that evaluating segments can come to, one case for each way in
which a segment ends or goes on. What holds of all runs is proved by induction on them.

Results:
* `call_of_unbound`, `call_of_unresolved`, `call_none`, `call_some_of_no_base`, `call_some`: what a
  call comes to, one equation for each case.
* `run_step`: the evaluator's steps are a run, which invokes the methods listed.
* `evaluate_cases`: an evaluation is a rejected assignment or a run.
-/

namespace ObjectPath

/-- The failure is one that reading and writing fields can end in. -/
def ScriptError.OfFields : ScriptError → Prop
  | memberNotFound .. | nullTarget .. | typeMismatch .. | notCloneable .. => True
  | _ => False

/-! ## Invocations -/

/-- A method invoked on a part of a value, with bound arguments. -/
structure Invocation where
  method : Method
  receiver : Spot
  args : List Value

namespace Invocation

/-- The end of the call. -/
def run (call : Invocation) : CallEnd := call.method.invoke (some call.receiver.value) call.args

/-- What the call makes of the value whose part is its receiver. -/
def after (call : Invocation) (v : Value) : Value :=
  v.put call.receiver.place (call.run.receiver.getD call.receiver.value)

end Invocation

namespace Evaluation

/-- The invocation that a call on the value leads to, if its arguments are bound and its method
    is found. -/
def invocation? (E : Evaluation) (v : Value) (name : String) (params : List Placeholder) :
    Option Invocation := do
  let bound ← (E.args.bind E.schema params).toOption
  let found ← E.schema.resolveMethod E.lookup v.ty name bound.types
  let up ← E.schema.ascend? v found.depth
  some ⟨found.member, up, bound.values⟩

/-- The invocations that evaluating the segments on a target leads to, in order. -/
def invocations (E : Evaluation) : List PlacedSegment → Value → List Invocation
  | [], _ => []
  | first :: rest, target =>
    match target.seeThrough with
    | .error _ => []
    | .ok here =>
      match first.segment with
      | .field name =>
        match E.fieldSpot? here.value name with
        | none => []
        | some inside => E.invocations rest inside.value
      | .call name params =>
        match E.invocation? here.value name params with
        | none => []
        | some call =>
          call :: match call.run.outcome with
            | .error _ => []
            | .ok value => E.invocations rest value

/-- The invocations that evaluating the script on a target leads to, in order. -/
def invoked (E : Evaluation) (target : Value) (terminal : Option Value) : List Invocation :=
  match terminal, detachedBy? E.script.segments with
  | some _, some _ => []
  | _, _ => E.invocations E.script.segments target

/-! ## Putting back what was found -/

theorem put_here {target : Value} {here : Spot} (hsee : target.seeThrough = .ok here) :
    target.put here.place here.value = target :=
  Value.put_at? (Value.seeThrough_in hsee)

theorem in_of_fieldSpot? {E : Evaluation} {v : Value} {name : String} {inside : Spot}
    (h : E.fieldSpot? v name = some inside) : inside.In v := by
  simp only [fieldSpot?, Option.bind_eq_bind, Option.bind_eq_some_iff, Option.some.injEq] at h
  obtain ⟨found, -, owner, howner, field, hfield, rfl⟩ := h
  exact .within (Schema.in_of_ascend? howner) (Schema.in_of_field? hfield)

theorem put_field {E : Evaluation} {target : Value} {here inside : Spot} {name : String}
    (hsee : target.seeThrough = .ok here) (hspot : E.fieldSpot? here.value name = some inside) :
    target.put (here.within inside).place inside.value = target :=
  Value.put_at? (Spot.In.within (Value.seeThrough_in hsee) (in_of_fieldSpot? hspot))

/-! ## One call -/

section Call

variable {E : Evaluation} {ty : Ty} {v : Value} {name : String} {params : List Placeholder}
  {bound : BoundCall} {found : Found Method} {up : Spot}

theorem call_of_unbound {reason : Reason} (hbind : E.args.bind E.schema params = .error reason)
    (ty : Ty) (receiver : Option Value) :
    E.call ty receiver name params =
      ⟨.error (.invalidScript ty.path E.source reason), receiver, []⟩ := by
  rw [call, hbind]

theorem call_of_unresolved (hbind : E.args.bind E.schema params = .ok bound)
    (hnone : E.schema.resolveMethod E.lookup ty name bound.types = none)
    (receiver : Option Value) :
    E.call ty receiver name params = ⟨.error (E.unknown ty name), receiver, []⟩ := by
  unfold call
  simp only [hbind, hnone, Lookup.warnings]

theorem call_none (hbind : E.args.bind E.schema params = .ok bound)
    (hfound : E.schema.resolveMethod E.lookup ty name bound.types = some found) :
    E.call ty none name params =
      ⟨(found.member.invoke none bound.values).outcome.mapError
          (.invocationFault ty.path name E.source),
        none, E.lookup.warnings name bound.types (some found)⟩ := by
  unfold call
  simp only [hbind, hfound]

theorem call_some_of_no_base (hbind : E.args.bind E.schema params = .ok bound)
    (hfound : E.schema.resolveMethod E.lookup ty name bound.types = some found)
    (hup : E.schema.ascend? v found.depth = none) :
    E.call ty (some v) name params =
      ⟨.error (E.unknown ty name), some v, E.lookup.warnings name bound.types (some found)⟩ := by
  unfold call
  simp only [hbind, hfound, hup]

theorem call_some (hbind : E.args.bind E.schema params = .ok bound)
    (hfound : E.schema.resolveMethod E.lookup ty name bound.types = some found)
    (hup : E.schema.ascend? v found.depth = some up) :
    E.call ty (some v) name params =
      ⟨(found.member.invoke (some up.value) bound.values).outcome.mapError
          (.invocationFault ty.path name E.source),
        some (v.put up.place
          ((found.member.invoke (some up.value) bound.values).receiver.getD up.value)),
        E.lookup.warnings name bound.types (some found)⟩ := by
  unfold call
  simp only [hbind, hfound, hup]

/-- A call is refused before it reaches a method, and then changes nothing, or ends as the
    invocation ends. -/
theorem call_cases (E : Evaluation) (v : Value) (name : String) (params : List Placeholder) :
    (∃ reason, E.args.bind E.schema params = .error reason ∧ E.invocation? v name params = none ∧
      (E.call v.ty (some v) name params).result =
        .error (.invalidScript v.ty.path E.source reason) ∧
      (E.call v.ty (some v) name params).receiver = some v) ∨
    (∃ bound, E.args.bind E.schema params = .ok bound ∧ E.invocation? v name params = none ∧
      (E.call v.ty (some v) name params).result = .error (E.unknown v.ty name) ∧
      (E.call v.ty (some v) name params).receiver = some v) ∨
    ∃ call bound, E.args.bind E.schema params = .ok bound ∧
      E.invocation? v name params = some call ∧
      (E.call v.ty (some v) name params).result =
        call.run.outcome.mapError (.invocationFault v.ty.path name E.source) ∧
      (E.call v.ty (some v) name params).receiver = some (call.after v) := by
  unfold invocation?
  cases hbind : E.args.bind E.schema params with
  | error reason =>
    rw [call_of_unbound hbind]
    exact .inl ⟨reason, rfl, rfl, rfl, rfl⟩
  | ok bound =>
    refine .inr ?_
    cases hfound : E.schema.resolveMethod E.lookup v.ty name bound.types with
    | none =>
      rw [call_of_unresolved hbind hfound]
      exact .inl ⟨bound, rfl, by simp [Except.toOption, hfound], rfl, rfl⟩
    | some found =>
      cases hup : E.schema.ascend? v found.depth with
      | none =>
        rw [call_some_of_no_base hbind hfound hup]
        exact .inl ⟨bound, rfl, by simp [Except.toOption, hfound, hup], rfl, rfl⟩
      | some up =>
        rw [call_some hbind hfound hup]
        exact .inr ⟨⟨found.member, up, bound.values⟩, bound, rfl,
          by simp [Except.toOption, hfound, hup], rfl, rfl⟩

/-- The warnings of a call are about the method that was found. -/
theorem log_call (hbind : E.args.bind E.schema params = .ok bound) (ty : Ty)
    (receiver : Option Value) :
    (E.call ty receiver name params).log = E.lookup.warnings name bound.types
      (E.schema.resolveMethod E.lookup ty name bound.types) := by
  cases hfound : E.schema.resolveMethod E.lookup ty name bound.types with
  | none =>
    rw [call_of_unresolved hbind hfound]
    rfl
  | some found =>
    cases receiver with
    | none => rw [call_none hbind hfound]
    | some v =>
      cases hup : E.schema.ascend? v found.depth with
      | none => rw [call_some_of_no_base hbind hfound hup]
      | some up => rw [call_some hbind hfound hup]

end Call

/-! ## The last field -/

/-- A last field is cloned or overwritten, or it cannot be and then keeps its value. -/
theorem finish_cases (E : Evaluation) (ty : Ty) (name : String) (field : Value)
    (terminal : Option Value) :
    (∃ copy, terminal = none ∧ E.schema.clone field = .ok copy ∧
      E.finish ty name field terminal = (.ok copy, field)) ∨
    (∃ cause, terminal = none ∧ E.schema.clone field = .error cause ∧
      E.finish ty name field terminal =
        (.error (.notCloneable ty.path name E.source cause), field)) ∨
    (∃ new stored, terminal = some new ∧ field.overwrite? new = some stored ∧
      E.finish ty name field terminal = (.ok field, stored)) ∨
    ∃ new, terminal = some new ∧ field.overwrite? new = none ∧
      E.finish ty name field terminal =
        (.error (.typeMismatch ty.path name field.ty.path new.ty.path E.source), field) := by
  cases terminal with
  | none => cases hc : E.schema.clone field <;> simp [finish, hc, Except.mapError]
  | some new => cases ho : field.overwrite? new <;> simp [finish, ho]

theorem ofFields_of_finish {E : Evaluation} {ty : Ty} {name : String} {field : Value}
    {terminal : Option Value} {e : ScriptError}
    (h : (E.finish ty name field terminal).1 = .error e) : e.OfFields := by
  rcases E.finish_cases ty name field terminal with ⟨_, -, -, hdone⟩ | ⟨_, -, -, hdone⟩ |
    ⟨_, _, -, -, hdone⟩ | ⟨_, -, -, hdone⟩ <;> rw [hdone] at h <;> cases h <;> trivial

/-! ## Field segments -/

theorem step_field {E : Evaluation} {first : PlacedSegment} {target : Value} {here inside : Spot}
    {name : String} (hsee : target.seeThrough = .ok here) (hseg : first.segment = .field name)
    (hspot : E.fieldSpot? here.value name = some inside) (terminal : Option Value) :
    E.step [first] target terminal =
      ⟨(E.finish here.value.ty name inside.value terminal).1,
        target.put (here.within inside).place
          (E.finish here.value.ty name inside.value terminal).2,
        [E.reached first here.value.ty]⟩ := by
  simp [step, hsee, hseg, hspot]

theorem step_unknownField {E : Evaluation} {first : PlacedSegment} {target : Value} {here : Spot}
    {name : String} (hsee : target.seeThrough = .ok here) (hseg : first.segment = .field name)
    (hspot : E.fieldSpot? here.value name = none) (rest : List PlacedSegment)
    (terminal : Option Value) :
    E.step (first :: rest) target terminal =
      ⟨.error (E.unknown here.value.ty name), target, [E.reached first here.value.ty]⟩ := by
  simp [step, hsee, hseg, hspot]

theorem step_hop {E : Evaluation} {first : PlacedSegment} {rest : List PlacedSegment}
    {target : Value} {here inside : Spot} {name : String} (hrest : rest ≠ [])
    (hsee : target.seeThrough = .ok here) (hseg : first.segment = .field name)
    (hspot : E.fieldSpot? here.value name = some inside) (terminal : Option Value) :
    E.step (first :: rest) target terminal =
      ⟨(E.step rest inside.value terminal).result,
        target.put (here.within inside).place (E.step rest inside.value terminal).target,
        E.reached first here.value.ty :: (E.step rest inside.value terminal).log⟩ := by
  simp [step, hsee, hseg, hspot, hrest]

/-! ## Call segments -/

theorem not_fields_of_call {first : PlacedSegment} {name : String} {params : List Placeholder}
    (hseg : first.segment = .call name params) (rest : List PlacedSegment) :
    ¬ ∀ s ∈ first :: rest, s.segment.isCall = false := fun hfields => by
  have hfirst := hfields first List.mem_cons_self
  simp [hseg, Segment.isCall] at hfirst

theorem step_call {E : Evaluation} {first : PlacedSegment} {target : Value} {here : Spot}
    {name : String} {params : List Placeholder} (hsee : target.seeThrough = .ok here)
    (hseg : first.segment = .call name params) (rest : List PlacedSegment)
    (terminal : Option Value) :
    (E.step (first :: rest) target terminal).result =
        ((E.call here.value.ty (some here.value) name params).result.bind fun value =>
          if rest = [] then .ok value else (E.step rest value none).result) ∧
      (E.step (first :: rest) target terminal).target = target.put here.place
        ((E.call here.value.ty (some here.value) name params).receiver.getD here.value) := by
  cases hresult : (E.call here.value.ty (some here.value) name params).result with
  | error e => simp [step, hsee, hseg, hresult, Except.bind]
  | ok value => by_cases hrest : rest = [] <;> simp [step, hsee, hseg, hresult, hrest, Except.bind]

/-! ## Runs -/

/-- What evaluating segments on a target comes to: the methods invoked, the result, and the
    target as it is afterwards. -/
inductive Run (E : Evaluation) : List PlacedSegment → Value → Option Value → List Invocation →
    Except ScriptError Value → Value → Prop
  | null {segments : List PlacedSegment} {target : Value} {terminal : Option Value} {ty : Ty}
      (hsee : target.seeThrough = .error ty) :
      Run E segments target terminal [] (.error (.nullTarget ty.path E.source)) target
  | ended {target : Value} {terminal : Option Value} {here : Spot}
      (hsee : target.seeThrough = .ok here) :
      Run E [] target terminal []
        ((E.schema.clone here.value).mapError (.notCloneable here.value.ty.path "" E.source))
        target
  | unknownField {first : PlacedSegment} {rest : List PlacedSegment} {target : Value}
      {terminal : Option Value} {here : Spot} {name : String}
      (hsee : target.seeThrough = .ok here) (hseg : first.segment = .field name)
      (hspot : E.fieldSpot? here.value name = none) :
      Run E (first :: rest) target terminal [] (.error (E.unknown here.value.ty name)) target
  | lastField {first : PlacedSegment} {target : Value} {terminal : Option Value}
      {here inside : Spot} {name : String}
      (hsee : target.seeThrough = .ok here) (hseg : first.segment = .field name)
      (hspot : E.fieldSpot? here.value name = some inside) :
      Run E [first] target terminal [] (E.finish here.value.ty name inside.value terminal).1
        (target.put (here.within inside).place
          (E.finish here.value.ty name inside.value terminal).2)
  | hop {first : PlacedSegment} {rest : List PlacedSegment} {target after : Value}
      {terminal : Option Value} {here inside : Spot} {name : String} {calls : List Invocation}
      {result : Except ScriptError Value} (hrest : rest ≠ [])
      (hsee : target.seeThrough = .ok here) (hseg : first.segment = .field name)
      (hspot : E.fieldSpot? here.value name = some inside)
      (inner : Run E rest inside.value terminal calls result after) :
      Run E (first :: rest) target terminal calls result
        (target.put (here.within inside).place after)
  | unbound {first : PlacedSegment} {rest : List PlacedSegment} {target : Value}
      {terminal : Option Value} {here : Spot} {name : String} {params : List Placeholder}
      {reason : Reason}
      (hsee : target.seeThrough = .ok here) (hseg : first.segment = .call name params)
      (hbind : E.args.bind E.schema params = .error reason) :
      Run E (first :: rest) target terminal []
        (.error (.invalidScript here.value.ty.path E.source reason)) target
  | unknownMethod {first : PlacedSegment} {rest : List PlacedSegment} {target : Value}
      {terminal : Option Value} {here : Spot} {name : String} {params : List Placeholder}
      {bound : BoundCall}
      (hsee : target.seeThrough = .ok here) (hseg : first.segment = .call name params)
      (hbind : E.args.bind E.schema params = .ok bound)
      (hcall : E.invocation? here.value name params = none) :
      Run E (first :: rest) target terminal [] (.error (E.unknown here.value.ty name)) target
  | faulted {first : PlacedSegment} {rest : List PlacedSegment} {target : Value}
      {terminal : Option Value} {here : Spot} {name : String} {params : List Placeholder}
      {bound : BoundCall} {call : Invocation} {cause : InvokeError}
      (hsee : target.seeThrough = .ok here) (hseg : first.segment = .call name params)
      (hbind : E.args.bind E.schema params = .ok bound)
      (hcall : E.invocation? here.value name params = some call)
      (hrun : call.run.outcome = .error cause) :
      Run E (first :: rest) target terminal [call]
        (.error (.invocationFault here.value.ty.path name E.source cause))
        (target.put here.place (call.after here.value))
  | returned {first : PlacedSegment} {target : Value} {terminal : Option Value} {here : Spot}
      {name : String} {params : List Placeholder} {bound : BoundCall} {call : Invocation}
      {value : Value}
      (hsee : target.seeThrough = .ok here) (hseg : first.segment = .call name params)
      (hbind : E.args.bind E.schema params = .ok bound)
      (hcall : E.invocation? here.value name params = some call)
      (hrun : call.run.outcome = .ok value) :
      Run E [first] target terminal [call] (.ok value)
        (target.put here.place (call.after here.value))
  | continued {first : PlacedSegment} {rest : List PlacedSegment} {target : Value}
      {terminal : Option Value} {here : Spot} {name : String} {params : List Placeholder}
      {bound : BoundCall} {call : Invocation} {value after : Value} {calls : List Invocation}
      {result : Except ScriptError Value} (hrest : rest ≠ [])
      (hsee : target.seeThrough = .ok here) (hseg : first.segment = .call name params)
      (hbind : E.args.bind E.schema params = .ok bound)
      (hcall : E.invocation? here.value name params = some call)
      (hrun : call.run.outcome = .ok value)
      (inner : Run E rest value none calls result after) :
      Run E (first :: rest) target terminal (call :: calls) result
        (target.put here.place (call.after here.value))

theorem run_step (E : Evaluation) (segments : List PlacedSegment) (target : Value)
    (terminal : Option Value) :
    E.Run segments target terminal (E.invocations segments target)
      (E.step segments target terminal).result (E.step segments target terminal).target := by
  induction segments generalizing target terminal with
  | nil =>
    cases hsee : target.seeThrough with
    | error ty => simpa [invocations, step, hsee] using Run.null hsee
    | ok here => simpa [invocations, step, hsee] using Run.ended hsee
  | cons first rest ih =>
    cases hsee : target.seeThrough with
    | error ty => simpa [invocations, step, hsee] using Run.null hsee
    | ok here =>
      cases hseg : first.segment with
      | field name =>
        cases hspot : E.fieldSpot? here.value name with
        | none =>
          simpa [invocations, step, hsee, hseg, hspot] using Run.unknownField hsee hseg hspot
        | some inside =>
          by_cases hrest : rest = []
          · subst hrest
            simpa [invocations, step, hsee, hseg, hspot] using Run.lastField hsee hseg hspot
          · simpa [invocations, step, hsee, hseg, hspot, hrest] using
              Run.hop hrest hsee hseg hspot (ih inside.value terminal)
      | call name params =>
        rcases E.call_cases here.value name params with ⟨reason, hbind, hcall, hresult, hafter⟩ |
          ⟨bound, hbind, hcall, hresult, hafter⟩ | ⟨call, bound, hbind, hcall, hresult, hafter⟩
        · simpa [invocations, step, hsee, hseg, hcall, hresult, hafter, put_here hsee] using
            Run.unbound hsee hseg hbind
        · simpa [invocations, step, hsee, hseg, hcall, hresult, hafter, put_here hsee] using
            Run.unknownMethod hsee hseg hbind hcall
        · cases hrun : call.run.outcome with
          | error cause =>
            simpa [invocations, step, hsee, hseg, hcall, hresult, hafter, hrun, Except.mapError]
              using Run.faulted hsee hseg hbind hcall hrun
          | ok value =>
            by_cases hrest : rest = []
            · subst hrest
              simpa [invocations, step, hsee, hseg, hcall, hresult, hafter, hrun, Except.mapError]
                using Run.returned hsee hseg hbind hcall hrun
            · simpa [invocations, step, hsee, hseg, hcall, hresult, hafter, hrun, hrest,
                Except.mapError] using
                Run.continued hrest hsee hseg hbind hcall hrun (ih value none)

theorem evaluate_of_detached {E : Evaluation} {call : Segment}
    (h : detachedBy? E.script.segments = some call) (target new : Value) :
    E.evaluate target (some new) =
      ⟨.error (.detachedAssignment target.ty.path call.name E.source), target,
        [.started E.source target.ty.path E.args.size true]⟩ := by
  simp [evaluate, h]

theorem evaluate_of_attached {E : Evaluation} {terminal : Option Value}
    (h : terminal.isSome → detachedBy? E.script.segments = none) (target : Value) :
    E.evaluate target terminal = (E.step E.script.segments target terminal).logged
      (.started E.source target.ty.path E.args.size terminal.isSome) := by
  cases terminal with
  | none => simp [evaluate]
  | some new => simp [evaluate, h rfl]

/-- What is not rejected is no assignment behind a call. -/
theorem attached_of_result {E : Evaluation} {target : Value} {terminal : Option Value}
    (h : ∀ cls member, (E.evaluate target terminal).result ≠
      .error (.detachedAssignment cls member E.source)) :
    terminal.isSome → detachedBy? E.script.segments = none := by
  intro hsome
  obtain ⟨new, rfl⟩ := Option.isSome_iff_exists.1 hsome
  cases hdetached : detachedBy? E.script.segments with
  | none => rfl
  | some call =>
    rw [evaluate_of_detached hdetached] at h
    exact absurd rfl (h _ _)

theorem result_evaluate_none (E : Evaluation) (target : Value) :
    (E.evaluate target none).result = (E.step E.script.segments target none).result := by
  simp [evaluate, Outcome.logged]

theorem target_evaluate_none (E : Evaluation) (target : Value) :
    (E.evaluate target none).target = (E.step E.script.segments target none).target := by
  simp [evaluate, Outcome.logged]

/-- An assignment behind a call is rejected; every other evaluation is a run. -/
theorem evaluate_cases (E : Evaluation) (target : Value) (terminal : Option Value) :
    (∃ call, detachedBy? E.script.segments = some call ∧ E.invoked target terminal = [] ∧
      (E.evaluate target terminal).result =
        .error (.detachedAssignment target.ty.path call.name E.source) ∧
      (E.evaluate target terminal).target = target) ∨
    E.Run E.script.segments target terminal (E.invoked target terminal)
      (E.evaluate target terminal).result (E.evaluate target terminal).target := by
  cases hdetached : detachedBy? E.script.segments with
  | none =>
    right
    simpa [evaluate, invoked, hdetached, Outcome.logged] using
      E.run_step E.script.segments target terminal
  | some call =>
    cases terminal with
    | none =>
      right
      simpa [evaluate, invoked, hdetached, Outcome.logged] using
        E.run_step E.script.segments target none
    | some new =>
      left
      exact ⟨call, rfl, by simp [invoked, hdetached], by simp [evaluate, hdetached],
        by simp [evaluate, hdetached]⟩

end Evaluation

end ObjectPath
