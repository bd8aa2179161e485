import ObjectPath.Proofs.Invocation

/-!
# The text of a script does not matter

Evaluation follows the segments of a script. Its text, and where in the text the segments stand,
show up in failures and in the log and nowhere else. So the same segments can be evaluated as
part of any other script, with the same outcome but for the text that failures quote.

Results:
* `step_withScript`: the steps of an evaluation in the name of another script.
* `Run.detachedAt_of_error`: no step fails because an assignment is detached.
-/

namespace ObjectPath

theorem Segment.eq_field_of_isCall {s : Segment} (h : s.isCall = false) : s = .field s.name := by
  cases s with
  | field name => rfl
  | call name params => simp [isCall] at h

namespace Script

/-- The segments of the script, wherever they stand in its text. -/
def chain (script : Script) : List Segment := script.segments.map (·.segment)

/-- The names of the fields and methods of the script, in order. -/
def names (script : Script) : List String := script.segments.map (·.segment.name)

end Script

/-! ## Failures in other scripts -/

namespace ScriptError

/-- The same failure, quoting another script. -/
def quoting (text : String) : ScriptError → ScriptError
  | invalidScript cls _ reason => invalidScript cls text reason
  | memberNotFound cls member _ => memberNotFound cls member text
  | invocationFault cls member _ cause => invocationFault cls member text cause
  | classNotFound cls _ => classNotFound cls text
  | nullTarget cls _ => nullTarget cls text
  | typeMismatch cls member expected found _ => typeMismatch cls member expected found text
  | notCloneable cls member _ cause => notCloneable cls member text cause
  | detachedAssignment cls member _ => detachedAssignment cls member text

theorem quoting_quoting (first text : String) (e : ScriptError) :
    (e.quoting first).quoting text = e.quoting text := by
  cases e <;> rfl

/-- The same failure; that an assignment is detached is reported for another class. -/
def detachedAt (cls : String) : ScriptError → ScriptError
  | detachedAssignment _ member script => detachedAssignment cls member script
  | e => e

theorem detachedAt_of_ofFields {e : ScriptError} (h : e.OfFields) (cls : String) :
    e.detachedAt cls = e := by
  cases e with
  | detachedAssignment => exact h.elim
  | _ => rfl

end ScriptError

/-! ## Evaluation of other scripts -/

namespace Evaluation

/-- The evaluation of another script, with the same classes and arguments. -/
def withScript (E : Evaluation) (script : Script) : Evaluation := { E with script }

@[simp] theorem script_withScript (E : Evaluation) (script : Script) :
    (E.withScript script).script = script := rfl

theorem fieldSpot?_withScript (E : Evaluation) (script : Script) (v : Value) (name : String) :
    (E.withScript script).fieldSpot? v name = E.fieldSpot? v name := rfl

theorem call_withScript (E : Evaluation) (script : Script) (ty : Ty) (receiver : Option Value)
    (name : String) (params : List Placeholder) :
    (E.withScript script).call ty receiver name params =
      ⟨(E.call ty receiver name params).result.mapError (·.quoting script.source),
        (E.call ty receiver name params).receiver, (E.call ty receiver name params).log⟩ := by
  have hfault (outcome : Except InvokeError Value) :
      outcome.mapError (ScriptError.invocationFault ty.path name (E.withScript script).source) =
        (outcome.mapError (ScriptError.invocationFault ty.path name E.source)).mapError
          (·.quoting script.source) := by
    cases outcome <;> rfl
  cases hbind : E.args.bind E.schema params with
  | error reason =>
    rw [call_of_unbound hbind]
    exact call_of_unbound (E := E.withScript script) hbind ty receiver
  | ok bound =>
    cases hfound : E.schema.resolveMethod E.lookup ty name bound.types with
    | none =>
      rw [call_of_unresolved hbind hfound]
      exact call_of_unresolved (E := E.withScript script) hbind hfound receiver
    | some found =>
      cases receiver with
      | none =>
        rw [call_none hbind hfound, ← hfault]
        exact call_none (E := E.withScript script) hbind hfound
      | some v =>
        cases hup : E.schema.ascend? v found.depth with
        | none =>
          rw [call_some_of_no_base hbind hfound hup]
          exact call_some_of_no_base (E := E.withScript script) hbind hfound hup
        | some up =>
          rw [call_some hbind hfound hup, ← hfault]
          exact call_some (E := E.withScript script) hbind hfound hup

theorem finish_withScript (E : Evaluation) (script : Script) (ty : Ty) (name : String)
    (field : Value) (terminal : Option Value) :
    (E.withScript script).finish ty name field terminal =
      ((E.finish ty name field terminal).1.mapError (·.quoting script.source),
        (E.finish ty name field terminal).2) := by
  cases terminal with
  | none => cases hc : E.schema.clone field <;> simp [finish, withScript, hc, Except.mapError,
      ScriptError.quoting, source]
  | some new => cases ho : field.overwrite? new <;> simp [finish, withScript, ho, Except.mapError,
      ScriptError.quoting, source]

/-- Evaluating the same segments in the name of another script changes nothing but the script
    that failures quote. -/
theorem step_withScript (E : Evaluation) (script : Script) {segments others : List PlacedSegment}
    (hsame : others.map (·.segment) = segments.map (·.segment)) (target : Value)
    (terminal : Option Value) :
    ((E.withScript script).step others target terminal).result =
        (E.step segments target terminal).result.mapError (·.quoting script.source) ∧
      ((E.withScript script).step others target terminal).target =
        (E.step segments target terminal).target := by
  induction segments generalizing others target terminal with
  | nil =>
    obtain rfl : others = [] := by simpa using hsame
    cases hsee : target.seeThrough with
    | error ty => simp [step, hsee, Except.mapError, ScriptError.quoting, withScript, source]
    | ok here =>
      cases hc : E.schema.clone here.value <;>
        simp [step, hsee, hc, Except.mapError, ScriptError.quoting, withScript, source]
  | cons first rest ih =>
    obtain ⟨second, others, rfl, hsecond, hothers⟩ := List.map_eq_cons_iff.1 hsame
    have hempty : others.isEmpty = rest.isEmpty := by
      simpa using congrArg List.isEmpty hothers
    cases hsee : target.seeThrough with
    | error ty => simp [step, hsee, Except.mapError, ScriptError.quoting, withScript, source]
    | ok here =>
      cases hseg : first.segment with
      | field name =>
        have hseg' : second.segment = .field name := hsecond.trans hseg
        cases hspot : E.fieldSpot? here.value name with
        | none =>
          simp only [step, hsee, hseg, hseg', fieldSpot?_withScript, hspot, and_true]
          rfl
        | some inside =>
          have hspot' : (E.withScript script).fieldSpot? here.value name = some inside := hspot
          by_cases hrest : rest = []
          · obtain rfl : others = [] := by simpa [hrest] using hothers
            rw [hrest, step_field hsee hseg hspot, step_field hsee hseg' hspot',
              finish_withScript]
            exact ⟨rfl, rfl⟩
          · have hothers' : others ≠ [] := fun hnil => hrest (by simpa [hnil] using hothers.symm)
            obtain ⟨hresult, htarget⟩ := ih hothers inside.value terminal
            rw [step_hop hrest hsee hseg hspot, step_hop hothers' hsee hseg' hspot', htarget]
            exact ⟨hresult, rfl⟩
      | call name params =>
        simp only [step, hsee, hsecond, hseg, call_withScript, hempty]
        cases hcalled : (E.call here.value.ty (some here.value) name params).result with
        | error e => exact ⟨rfl, rfl⟩
        | ok value =>
          simp only [Except.mapError]
          split
          · exact ⟨rfl, rfl⟩
          · exact ⟨(ih hothers value none).1, rfl⟩

/-- Detached assignments are rejected before the first step. -/
theorem Run.detachedAt_of_error {E : Evaluation} {segments : List PlacedSegment}
    {target after : Value} {terminal : Option Value} {calls : List Invocation}
    {result : Except ScriptError Value} (h : E.Run segments target terminal calls result after)
    (cls : String) : result.mapError (·.detachedAt cls) = result := by
  induction h with
  | null | unknownField | unbound | unknownMethod | faulted | returned => rfl
  | @ended target terminal here hsee =>
    cases E.schema.clone here.value <;> rfl
  | @lastField first target terminal here inside name hsee hseg hspot =>
    cases hresult : (E.finish here.value.ty name inside.value terminal).1 with
    | ok value => rfl
    | error e =>
      rw [Except.mapError, ScriptError.detachedAt_of_ofFields (ofFields_of_finish hresult)]
  | hop _ _ _ _ _ ih | continued _ _ _ _ _ _ _ ih => exact ih

end Evaluation

end ObjectPath
