import ObjectPath.Proofs.Composition

/-!
# The trace of an evaluation

A segment is reported once the value in front of it turned out to be there, and before it is
resolved. So the lines of the trace are about the segments from the first one on, in order, each
once. An evaluation that succeeds has reported all segments. One that fails in a segment has that
segment's line last. One that comes to a missing value has not reported the segment that would
have been next, and one that is rejected at once has reported none. Warnings may stand in between.

Where an evaluation stands when it comes to a segment is found without looking at the log, by
resolving the segments in front one after the other (`Evaluation.reach`).

Results:
* `level_of_mem_log_call`, `ofSegment_of_call`: what a call reports, and how it fails.
* `TracedTo.cons`: one more segment in front.
* `step_traced`: the trace of the evaluator's steps.
* `trace_is_prefix_of_script`: the log of a whole evaluation, on a value or on a class.
-/

namespace ObjectPath

/-- What segments are resolved on: a value, or a class without a value. -/
inductive Standpoint where
  | value (v : Value)
  | cls (ty : Ty)

/-- The type whose members are looked up, or the optional type of a value that is missing. -/
def Standpoint.ty? : Standpoint → Except Ty Ty
  | value v => v.seeThrough.map (·.value.ty)
  | cls ty => .ok ty

/-- The failure comes from resolving a segment. -/
def ScriptError.OfSegment : ScriptError → Prop
  | memberNotFound .. | invalidScript .. | invocationFault .. | typeMismatch ..
  | notCloneable .. => True
  | _ => False

/-- The lines about segments. -/
def traces (log : List LogEntry) : List LogEntry := log.filter (·.level = "TRACE")

namespace Evaluation

/-! ## One segment after the other -/

/-- What the segment leads to if more segments follow. -/
def resolve (E : Evaluation) (s : Segment) : Standpoint → Except ScriptError Value
  | .value v =>
    match v.seeThrough with
    | .error ty => .error (.nullTarget ty.path E.source)
    | .ok here =>
      match s with
      | .field name =>
        match E.fieldSpot? here.value name with
        | none => .error (E.unknown here.value.ty name)
        | some inside => .ok inside.value
      | .call name params => (E.call here.value.ty (some here.value) name params).result
  | .cls ty =>
    match s with
    | .field name =>
      match E.schema.resolveField ty name with
      | none => .error (E.unknown ty name)
      | some found =>
        .error (.invocationFault ty.path name E.source (.missingReceiver found.member.name))
    | .call name params => (E.call ty none name params).result

/-- What the segment leads to at the end of a script. -/
def conclude (E : Evaluation) (s : PlacedSegment) (terminal : Option Value) :
    Standpoint → Except ScriptError Value
  | .value v => (E.step [s] v terminal).result
  | .cls ty => E.resolve s.segment (.cls ty)

/-- Where the evaluation stands behind the segments. -/
def reach (E : Evaluation) : Standpoint → List PlacedSegment → Except ScriptError Standpoint
  | start, [] => .ok start
  | start, s :: rest => (E.resolve s.segment start).bind fun v => E.reach (.value v) rest

/-- What is still to be assigned behind the segments: nothing behind a call. -/
def toAssign (terminal : Option Value) (front : List PlacedSegment) : Option Value :=
  if front.any (·.segment.isCall) then none else terminal

/-- The segment of the given number, counted from one, fails with the error. -/
def FailsAt (E : Evaluation) (start : Standpoint) (segments : List PlacedSegment)
    (terminal : Option Value) (number : Nat) (e : ScriptError) : Prop :=
  ∃ front s back here, segments = front ++ s :: back ∧ front.length + 1 = number ∧
    E.reach start front = .ok here ∧
    (if back = [] then E.conclude s (toAssign terminal front) here
      else E.resolve s.segment here) = .error e

/-- Behind the given number of segments, and in front of another one, a value is missing. -/
def MissesBehind (E : Evaluation) (start : Standpoint) (segments : List PlacedSegment)
    (number : Nat) (ty : Ty) : Prop :=
  ∃ front s back v, segments = front ++ s :: back ∧ front.length = number ∧
    E.reach start front = .ok (.value v) ∧ v.seeThrough = .error ty

/-- The number of segments that were reported fits the result. -/
inductive Ends (E : Evaluation) (start : Standpoint) (segments : List PlacedSegment)
    (terminal : Option Value) : Nat → Except ScriptError Value → Prop
  | done (value : Value) : Ends E start segments terminal segments.length (.ok value)
  | failed {number : Nat} {e : ScriptError} (he : e.OfSegment)
      (h : E.FailsAt start segments terminal number e) :
      Ends E start segments terminal number (.error e)
  | missed {number : Nat} {ty : Ty} (h : E.MissesBehind start segments number ty) :
      Ends E start segments terminal number (.error (.nullTarget ty.path E.source))

/-- The log is about as many segments as given, in order, and the number fits the result. -/
structure TracedTo (E : Evaluation) (start : Standpoint) (segments : List PlacedSegment)
    (terminal : Option Value) (result : Except ScriptError Value) (log : List LogEntry)
    (number : Nat) : Prop where
  quiet : ∀ line ∈ log, line.level ≠ "DEBUG"
  count : (traces log).length = number
  lines : ∀ (i : Nat) (line : LogEntry), (traces log)[i]? = some line → ∃ s here ty,
    segments[i]? = some s ∧ E.reach start (segments.take i) = .ok here ∧ here.ty? = .ok ty ∧
      line = E.reached s ty
  ends : E.Ends start segments terminal number result

variable {E : Evaluation} {start : Standpoint} {s : PlacedSegment} {rest : List PlacedSegment}
  {terminal : Option Value} {next : Value} {result : Except ScriptError Value}
  {log warnings : List LogEntry} {number : Nat}

/-! ## One segment -/

theorem level_of_mem_warnings {lookup : Lookup} {name : String} {types : List Ty}
    {found? : Option (Found Method)} {line : LogEntry}
    (h : line ∈ lookup.warnings name types found?) : line.level = "WARN" := by
  unfold Lookup.warnings at h
  split at h
  · split at h
    · rw [List.mem_singleton.1 h]
      rfl
    · cases h
  · cases h

/-- What a call reports is a warning. -/
theorem level_of_mem_log_call (E : Evaluation) (ty : Ty) (receiver : Option Value) (name : String)
    (params : List Placeholder) :
    ∀ line ∈ (E.call ty receiver name params).log, line.level = "WARN" := by
  cases hbind : E.args.bind E.schema params with
  | error reason =>
    rw [call_of_unbound hbind]
    exact List.forall_mem_nil _
  | ok bound =>
    rw [log_call hbind]
    exact fun _ => level_of_mem_warnings

/-- A call that fails does so as a segment fails. -/
theorem ofSegment_of_call {ty : Ty} {receiver : Option Value} {name : String}
    {params : List Placeholder} {e : ScriptError}
    (h : (E.call ty receiver name params).result = .error e) : e.OfSegment := by
  have hfault {r : Except InvokeError Value}
      (h : r.mapError (.invocationFault ty.path name E.source) = .error e) : e.OfSegment := by
    obtain ⟨cause, -, rfl⟩ := Except.mapError_eq_error_iff.1 h
    trivial
  cases hbind : E.args.bind E.schema params with
  | error reason =>
    rw [call_of_unbound hbind] at h
    cases h
    trivial
  | ok bound =>
    cases hfound : E.schema.resolveMethod E.lookup ty name bound.types with
    | none =>
      rw [call_of_unresolved hbind hfound] at h
      cases h
      trivial
    | some found =>
      cases receiver with
      | none =>
        rw [call_none hbind hfound] at h
        exact hfault h
      | some v =>
        cases hup : E.schema.ascend? v found.depth with
        | none =>
          rw [call_some_of_no_base hbind hfound hup] at h
          cases h
          trivial
        | some up =>
          rw [call_some hbind hfound hup] at h
          exact hfault h

/-- The step at a segment that fails. -/
theorem step_of_resolve_error {v : Value} {here : Spot} {e : ScriptError}
    (hsee : v.seeThrough = .ok here) (h : E.resolve s.segment (.value v) = .error e)
    (rest : List PlacedSegment) (terminal : Option Value) :
    e.OfSegment ∧ (E.step (s :: rest) v terminal).result = .error e ∧
      ∃ warnings, (∀ line ∈ warnings, line.level = "WARN") ∧
        (E.step (s :: rest) v terminal).log = E.reached s here.value.ty :: warnings := by
  simp only [resolve, hsee] at h
  cases hseg : s.segment with
  | field name =>
    rw [hseg] at h
    cases hspot : E.fieldSpot? here.value name with
    | none =>
      simp only [hspot, Except.error.injEq] at h
      rw [step_unknownField hsee hseg hspot, ← h]
      exact ⟨trivial, rfl, [], List.forall_mem_nil _, rfl⟩
    | some inside => simp [hspot] at h
  | call name params =>
    rw [hseg] at h
    have hlog := E.level_of_mem_log_call here.value.ty (some here.value) name params
    refine ⟨ofSegment_of_call h, ?_, _, hlog, ?_⟩
    · simp [step, hsee, hseg, h]
    · simp [step, hsee, hseg, h]

/-- The step at a segment that leads to a value, with more segments behind it. -/
theorem step_of_resolve_ok {v : Value} {here : Spot} (hsee : v.seeThrough = .ok here)
    (h : E.resolve s.segment (.value v) = .ok next) (hrest : rest ≠ [])
    (terminal : Option Value) :
    (E.step (s :: rest) v terminal).result =
        (E.step rest next (toAssign terminal [s])).result ∧
      ∃ warnings, (∀ line ∈ warnings, line.level = "WARN") ∧
        (E.step (s :: rest) v terminal).log = E.reached s here.value.ty ::
          (warnings ++ (E.step rest next (toAssign terminal [s])).log) := by
  simp only [resolve, hsee] at h
  cases hseg : s.segment with
  | field name =>
    rw [hseg] at h
    have hassign : toAssign terminal [s] = terminal := by simp [toAssign, hseg, Segment.isCall]
    cases hspot : E.fieldSpot? here.value name with
    | none => simp [hspot] at h
    | some inside =>
      simp only [hspot, Except.ok.injEq] at h
      rw [step_hop hrest hsee hseg hspot, hassign, ← h]
      exact ⟨rfl, [], List.forall_mem_nil _, rfl⟩
  | call name params =>
    rw [hseg] at h
    have hassign : toAssign terminal [s] = none := by simp [toAssign, hseg, Segment.isCall]
    have hlog := E.level_of_mem_log_call here.value.ty (some here.value) name params
    rw [hassign]
    refine ⟨?_, _, hlog, ?_⟩
    · simp [step, hsee, hseg, h, hrest]
    · simp [step, hsee, hseg, h, hrest]

/-- The step at the last segment. -/
theorem step_last {v : Value} {here : Spot} (hsee : v.seeThrough = .ok here)
    (s : PlacedSegment) (terminal : Option Value) :
    (∀ e, (E.step [s] v terminal).result = .error e → e.OfSegment) ∧
      ∃ warnings, (∀ line ∈ warnings, line.level = "WARN") ∧
        (E.step [s] v terminal).log = E.reached s here.value.ty :: warnings := by
  cases hseg : s.segment with
  | field name =>
    cases hspot : E.fieldSpot? here.value name with
    | none =>
      rw [step_unknownField hsee hseg hspot]
      exact ⟨fun e h => by cases h; trivial, [], List.forall_mem_nil _, rfl⟩
    | some inside =>
      rw [step_field hsee hseg hspot]
      refine ⟨fun e h => ?_, [], List.forall_mem_nil _, rfl⟩
      rcases E.finish_cases here.value.ty name inside.value terminal with
        ⟨_, -, -, hdone⟩ | ⟨_, -, -, hdone⟩ | ⟨_, _, -, -, hdone⟩ | ⟨_, -, -, hdone⟩ <;>
        rw [hdone] at h <;> cases h <;> trivial
  | call name params =>
    have hlog := E.level_of_mem_log_call here.value.ty (some here.value) name params
    cases hresult : (E.call here.value.ty (some here.value) name params).result with
    | error e =>
      refine ⟨?_, _, hlog, by simp [step, hsee, hseg, hresult]⟩
      simp only [step, hsee, hseg, hresult, Except.error.injEq, forall_eq']
      exact ofSegment_of_call hresult
    | ok value =>
      exact ⟨by simp [step, hsee, hseg, hresult], _, hlog, by simp [step, hsee, hseg, hresult]⟩

/-! ## All segments -/

theorem toAssign_cons (terminal : Option Value) (s : PlacedSegment) (front : List PlacedSegment) :
    toAssign terminal (s :: front) = toAssign (toAssign terminal [s]) front := by
  unfold toAssign
  cases hcall : s.segment.isCall <;> simp [hcall]

theorem reach_cons (h : E.resolve s.segment start = .ok next) (front : List PlacedSegment) :
    E.reach start (s :: front) = E.reach (.value next) front := by
  rw [reach, h]
  rfl

theorem failsAt_first {e : ScriptError} (h : (if rest = [] then E.conclude s terminal start
    else E.resolve s.segment start) = .error e) : E.FailsAt start (s :: rest) terminal 1 e :=
  ⟨[], s, rest, start, rfl, rfl, rfl, h⟩

namespace Ends

theorem le {segments : List PlacedSegment} (h : E.Ends start segments terminal number result) :
    number ≤ segments.length := by
  cases h with
  | done value => exact Nat.le_refl _
  | failed _ h =>
    obtain ⟨front, s, back, here, rfl, rfl, -⟩ := h
    simp
  | missed h =>
    obtain ⟨front, s, back, v, rfl, rfl, -⟩ := h
    simp

/-- A segment in front shifts the numbers by one. -/
theorem cons (hresolve : E.resolve s.segment start = .ok next)
    (h : E.Ends (.value next) rest (toAssign terminal [s]) number result) :
    E.Ends start (s :: rest) terminal (number + 1) result := by
  cases h with
  | done value => exact .done value
  | failed he h =>
    obtain ⟨front, s', back, here, rfl, rfl, hreach, hfails⟩ := h
    refine .failed he ⟨s :: front, s', back, here, rfl, rfl, ?_, ?_⟩
    · rw [reach_cons hresolve, hreach]
    · rw [toAssign_cons, hfails]
  | missed h =>
    obtain ⟨front, s', back, v, rfl, rfl, hreach, hsee⟩ := h
    refine .missed ⟨s :: front, s', back, v, rfl, rfl, ?_, hsee⟩
    rw [reach_cons hresolve, hreach]

end Ends

@[simp] theorem level_reached (s : PlacedSegment) (ty : Ty) :
    (E.reached s ty).level = "TRACE" := rfl

theorem traces_reached (hwarnings : ∀ line ∈ warnings, line.level = "WARN") (s : PlacedSegment)
    (ty : Ty) (log : List LogEntry) :
    traces (E.reached s ty :: (warnings ++ log)) = E.reached s ty :: traces log := by
  have hnone : warnings.filter (·.level = "TRACE") = [] := by
    refine List.filter_eq_nil_iff.2 fun line hline => ?_
    simp [hwarnings line hline]
  rw [traces, List.filter_cons_of_pos (by simp), List.filter_append, hnone, List.nil_append, traces]

theorem quiet_reached (hwarnings : ∀ line ∈ warnings, line.level = "WARN") (s : PlacedSegment)
    (ty : Ty) (hlog : ∀ line ∈ log, line.level ≠ "DEBUG") :
    ∀ line ∈ E.reached s ty :: (warnings ++ log), line.level ≠ "DEBUG" := by
  intro line hline
  rcases List.mem_cons.1 hline with rfl | hline
  · rw [level_reached]
    decide
  · rcases List.mem_append.1 hline with hline | hline
    · rw [hwarnings line hline]
      decide
    · exact hlog line hline

namespace TracedTo

/-- One more segment in front. -/
theorem cons {ty : Ty} (hty : start.ty? = .ok ty) (hresolve : E.resolve s.segment start = .ok next)
    (hwarnings : ∀ line ∈ warnings, line.level = "WARN")
    (h : E.TracedTo (.value next) rest (toAssign terminal [s]) result log number) :
    E.TracedTo start (s :: rest) terminal result (E.reached s ty :: (warnings ++ log))
      (number + 1) where
  quiet := quiet_reached hwarnings s ty h.quiet
  count := by rw [traces_reached hwarnings, List.length_cons, h.count]
  lines i line hline := by
    rw [traces_reached hwarnings] at hline
    cases i with
    | zero => exact ⟨s, start, ty, rfl, rfl, hty, (Option.some.inj hline).symm⟩
    | succ i =>
      obtain ⟨s', here, ty', hs', hreach, hty', rfl⟩ := h.lines i line hline
      exact ⟨s', here, ty', hs', by rw [List.take_succ_cons, reach_cons hresolve, hreach], hty', rfl⟩
  ends := h.ends.cons hresolve

/-- The evaluation ends in the first segment. -/
theorem first {ty : Ty} (hty : start.ty? = .ok ty)
    (hwarnings : ∀ line ∈ warnings, line.level = "WARN")
    (h : E.Ends start (s :: rest) terminal 1 result) :
    E.TracedTo start (s :: rest) terminal result (E.reached s ty :: warnings) 1 := by
  have htraces := traces_reached (E := E) hwarnings s ty []
  rw [List.append_nil] at htraces
  refine ⟨?_, by rw [htraces]; rfl, fun i line hline => ?_, h⟩
  · have hquiet : ∀ line ∈ E.reached s ty :: (warnings ++ []), line.level ≠ "DEBUG" :=
      quiet_reached hwarnings s ty (by simp)
    rwa [List.append_nil] at hquiet
  · rw [htraces] at hline
    cases i with
    | zero => exact ⟨s, start, ty, rfl, rfl, hty, (Option.some.inj hline).symm⟩
    | succ i => cases hline

end TracedTo

/-- The trace of the evaluator's steps. -/
theorem step_traced {segments : List PlacedSegment} (hne : segments ≠ []) (v : Value)
    (terminal : Option Value) :
    ∃ number, E.TracedTo (.value v) segments terminal (E.step segments v terminal).result
      (E.step segments v terminal).log number := by
  induction segments generalizing v terminal with
  | nil => exact absurd rfl hne
  | cons s rest ih =>
    cases hsee : v.seeThrough with
    | error ty =>
      simp only [step, hsee]
      exact ⟨0, by simp, rfl, by simp [traces],
        .missed ⟨[], s, rest, v, rfl, rfl, rfl, hsee⟩⟩
    | ok here =>
      have hty : (Standpoint.value v).ty? = .ok here.value.ty := by
        rw [Standpoint.ty?, hsee]
        rfl
      cases hresolve : E.resolve s.segment (.value v) with
      | error e =>
        -- the failure is the same at the end of a script and in front of more segments
        obtain ⟨he, hresult, warnings, hwarnings, hlog⟩ :=
          step_of_resolve_error hsee hresolve rest terminal
        obtain ⟨-, hlast, -⟩ := step_of_resolve_error hsee hresolve [] terminal
        rw [hresult, hlog]
        refine ⟨1, .first hty hwarnings (.failed he (failsAt_first ?_))⟩
        split
        · exact hlast
        · exact hresolve
      | ok next =>
        by_cases hrest : rest = []
        · subst hrest
          obtain ⟨hsegment, warnings, hwarnings, hlog⟩ := step_last (E := E) hsee s terminal
          rw [hlog]
          cases hresult : (E.step [s] v terminal).result with
          | error e =>
            have hfails : E.FailsAt (.value v) [s] terminal 1 e := failsAt_first (by
              rw [if_pos rfl]
              exact hresult)
            exact ⟨1, .first hty hwarnings (.failed (hsegment e hresult) hfails)⟩
          | ok value => exact ⟨1, .first hty hwarnings (.done value)⟩
        · -- behind a call there is nothing to assign any more, so the induction is on that, too
          obtain ⟨hresult, warnings, hwarnings, hlog⟩ :=
            step_of_resolve_ok hsee hresolve hrest terminal
          obtain ⟨number, htraced⟩ := ih hrest next (toAssign terminal [s])
          rw [hresult, hlog]
          exact ⟨number + 1, htraced.cons hty hresolve hwarnings⟩

/-! ## Whole evaluations -/

/-- The result and the log of the script, evaluated on a value, with a value to assign or none, or
    on a class. -/
def report (E : Evaluation) : Standpoint → Option Value → Except ScriptError Value × List LogEntry
  | .value target, terminal => ((E.evaluate target terminal).result, (E.evaluate target terminal).log)
  | .cls ty, _ => E.evaluateStatic ty

/-- The line that an evaluation starts with. -/
def opening (E : Evaluation) : Standpoint → Option Value → LogEntry
  | .value target, terminal => .started E.source target.ty.path E.args.size terminal.isSome
  | .cls ty, _ => .startedStatic E.source ty.path E.args.size

theorem ofSegment_of_resolve_cls {ty : Ty} {s : Segment} {e : ScriptError}
    (h : E.resolve s (.cls ty) = .error e) : e.OfSegment := by
  cases s with
  | field name =>
    simp only [resolve] at h
    split at h <;> cases h <;> trivial
  | call name params => exact ofSegment_of_call h

/-- The trace of an evaluation on a class. -/
theorem evaluateStatic_traced (hne : E.script.segments ≠ []) (ty : Ty) (terminal : Option Value) :
    ∃ log number, (E.evaluateStatic ty).2 = E.opening (.cls ty) terminal :: log ∧
      E.TracedTo (.cls ty) E.script.segments terminal (E.evaluateStatic ty).1 log number := by
  unfold evaluateStatic
  cases hsegments : E.script.segments with
  | nil => exact absurd hsegments hne
  | cons s rest =>
    have hfailed {e : ScriptError} (h : E.resolve s.segment (.cls ty) = .error e) :
        E.Ends (.cls ty) (s :: rest) terminal 1 (.error e) := by
      refine .failed (ofSegment_of_resolve_cls h) (failsAt_first ?_)
      split
      · exact h
      · exact h
    cases hseg : s.segment with
    | field name =>
      simp only [hseg]
      cases hfound : E.schema.resolveField ty name with
      | none =>
        exact ⟨_, 1, rfl, .first rfl (by simp) (hfailed (by simp only [hseg, resolve, hfound]))⟩
      | some found =>
        exact ⟨_, 1, rfl, .first rfl (by simp) (hfailed (by simp only [hseg, resolve, hfound]))⟩
    | call name params =>
      have hresolve : E.resolve s.segment (.cls ty) = (E.call ty none name params).result := by
        rw [hseg]
        rfl
      have hwarnings := E.level_of_mem_log_call ty none name params
      simp only [hseg]
      cases hresult : (E.call ty none name params).result with
      | error e => exact ⟨_, 1, rfl, .first rfl hwarnings (hfailed (hresolve.trans hresult))⟩
      | ok value =>
        by_cases hrest : rest = []
        · subst hrest
          exact ⟨_, 1, rfl, .first rfl hwarnings (.done value)⟩
        · obtain ⟨number, htraced⟩ := step_traced (E := E) hrest value (toAssign terminal [s])
          have hassign : toAssign terminal [s] = none := by
            simp [toAssign, hseg, Segment.isCall]
          have hcons : E.TracedTo (.cls ty) (s :: rest) terminal _ _ (number + 1) :=
            htraced.cons rfl (hresolve.trans hresult) hwarnings
          rw [hassign] at hcons
          refine ⟨E.reached s ty ::
            ((E.call ty none name params).log ++ (E.step rest value none).log), number + 1, ?_, ?_⟩
          · simp [hrest, opening]
          · simpa [hrest] using hcons

/-- An assignment that is rejected at once is reported as started and no further. Every other
    evaluation is traced. -/
theorem report_cases (hne : E.script.segments ≠ []) (start : Standpoint)
    (terminal : Option Value) :
    (∃ cls member, E.report start terminal =
      (.error (.detachedAssignment cls member E.source), [E.opening start terminal])) ∨
    ∃ log number, (E.report start terminal).2 = E.opening start terminal :: log ∧
      E.TracedTo start E.script.segments terminal (E.report start terminal).1 log number := by
  cases start with
  | cls ty => exact .inr (evaluateStatic_traced hne ty terminal)
  | value target =>
    by_cases hattached : terminal.isSome → detachedBy? E.script.segments = none
    · obtain ⟨number, htraced⟩ := step_traced (E := E) hne target terminal
      refine .inr ⟨(E.step E.script.segments target terminal).log, number, ?_⟩
      simp only [report, evaluate_of_attached hattached]
      exact ⟨rfl, htraced⟩
    · obtain ⟨hsome, hcall⟩ := Classical.not_imp.1 hattached
      obtain ⟨new, rfl⟩ := Option.isSome_iff_exists.1 hsome
      obtain ⟨call, hcall⟩ := Option.ne_none_iff_exists'.1 hcall
      refine .inl ⟨target.ty.path, call.name, ?_⟩
      simp only [report, evaluate_of_detached hcall]
      rfl

/-- The trace of a script with segments is about its first segments, in order, each once, with its
    own offset and text and the class that it is resolved on. It stands behind the one line for the
    start of the evaluation. All segments are reported if the evaluation succeeds. If it fails in a
    segment, that one is the last that is reported; if it comes to a missing value, the one that
    would be next is not reported; and if it is rejected at once, none is. -/
theorem trace_is_prefix_of_script (E : Evaluation) (hne : E.script.segments ≠ [])
    (start : Standpoint) (terminal : Option Value) :
    ∃ log number, (E.report start terminal).2 = E.opening start terminal :: log ∧
      (E.opening start terminal).level = "DEBUG" ∧ (∀ line ∈ log, line.level ≠ "DEBUG") ∧
      number ≤ E.script.segments.length ∧ (traces log).length = number ∧
      (∀ (i : Nat) (line : LogEntry), (traces log)[i]? = some line → ∃ s here ty,
        E.script.segments[i]? = some s ∧ E.reach start (E.script.segments.take i) = .ok here ∧
          here.ty? = .ok ty ∧ line = .reached E.source s.offset s.segment ty.path) ∧
      (∀ value, (E.report start terminal).1 = .ok value → number = E.script.segments.length) ∧
      (∀ e : ScriptError, e.OfSegment → (E.report start terminal).1 = .error e →
        E.FailsAt start E.script.segments terminal number e) ∧
      (∀ cls text, (E.report start terminal).1 = .error (.nullTarget cls text) →
        ∃ ty, cls = ty.path ∧ E.MissesBehind start E.script.segments number ty) ∧
      ∀ cls member text, (E.report start terminal).1 = .error (.detachedAssignment cls member text) →
        number = 0 := by
  have hopening : (E.opening start terminal).level = "DEBUG" := by
    cases start <;> rfl
  rcases report_cases hne start terminal with ⟨cls, member, hreport⟩ | ⟨log, number, hlog, htraced⟩
  · rw [hreport]
    refine ⟨[], 0, rfl, hopening, by simp, Nat.zero_le _, rfl, by simp [traces], by simp, ?_,
      by simp, fun _ _ _ _ => rfl⟩
    intro e he h
    cases h
    exact he.elim
  · have hends := htraced.ends
    refine ⟨log, number, hlog, hopening, htraced.quiet, hends.le, htraced.count, htraced.lines,
      ?succeeds, ?fails, ?misses, ?rejected⟩
    case succeeds =>
      intro value hvalue
      rw [hvalue] at hends
      cases hends
      rfl
    case fails =>
      intro e he h
      rw [h] at hends
      cases hends with
      | failed _ hfails => exact hfails
      | missed _ => exact he.elim
    case misses =>
      intro cls text h
      rw [h] at hends
      generalize herror : ScriptError.nullTarget cls text = e at hends
      cases hends with
      | failed he _ =>
        rw [← herror] at he
        exact he.elim
      | missed hmisses =>
        cases herror
        exact ⟨_, rfl, hmisses⟩
    case rejected =>
      intro cls member text h
      rw [h] at hends
      cases hends with
      | failed he _ => exact he.elim

/-- A puppy without an owner has its first segment reported, since there is no person to look for a
    home in. The birthday of a dog and the name behind it are both reported, since the number of
    years is there and has no name. -/
theorem trace_stops_where_evaluation_does :
    (galleryAddress.report (.value Gallery.puppy.initial) none).2 =
      [.started "owner.home.number" "zoo::Puppy" 0 false,
        .reached "owner.home.number" 0 (.field "owner") "zoo::Puppy"] ∧
    (∃ ty, galleryAddress.MissesBehind (.value Gallery.puppy.initial)
      galleryAddress.script.segments 1 ty) ∧
    (galleryBirthday.report (.value Gallery.dog.initial) none).2 =
      [.started "birthday().name" "zoo::Dog" 0 false,
        .reached "birthday().name" 0 (.call "birthday" []) "zoo::Dog",
        .reached "birthday().name" 11 (.field "name") "u32"] ∧
    galleryBirthday.FailsAt (.value Gallery.dog.initial) galleryBirthday.script.segments none 2
      (.memberNotFound "u32" "name" "birthday().name") := by
  have howner : (galleryAddress.report (.value Gallery.puppy.initial) none).2 =
      [.started "owner.home.number" "zoo::Puppy" 0 false,
        .reached "owner.home.number" 0 (.field "owner") "zoo::Puppy"] := by rfl
  have hbirthday : (galleryBirthday.report (.value Gallery.dog.initial) none).2 =
      [.started "birthday().name" "zoo::Dog" 0 false,
        .reached "birthday().name" 0 (.call "birthday" []) "zoo::Dog",
        .reached "birthday().name" 11 (.field "name") "u32"] := by rfl
  refine ⟨howner, ?_, hbirthday, ?_⟩
  · obtain ⟨log, number, hlog, -, -, -, hcount, -, -, -, hmisses, -⟩ :=
      trace_is_prefix_of_script galleryAddress (by decide) (.value Gallery.puppy.initial) none
    obtain rfl := (List.cons.inj (howner.symm.trans hlog)).2
    obtain rfl : 1 = number := hcount
    obtain ⟨ty, -, h⟩ := hmisses "core::option::Option<zoo::Person>" "owner.home.number" (by rfl)
    exact ⟨ty, h⟩
  · obtain ⟨log, number, hlog, -, -, -, hcount, -, -, hfails, -⟩ :=
      trace_is_prefix_of_script galleryBirthday (by decide) (.value Gallery.dog.initial) none
    obtain rfl := (List.cons.inj (hbirthday.symm.trans hlog)).2
    obtain rfl : 2 = number := hcount
    exact hfails _ trivial (by rfl)

end Evaluation

end ObjectPath
