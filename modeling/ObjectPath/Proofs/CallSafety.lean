import ObjectPath.Gallery.Declare
import ObjectPath.Proofs.Invocation
import ObjectPath.Proofs.Lookup
import ObjectPath.Proofs.Soundness

/-!
# Safety of calls

Type-aware lookup looks at the types of arguments only, a method is invoked on values, and
clones and conversions stand in between. On well-typed values of sound classes they agree: the
checks in front of a method's body never fail, at whatever depth of base classes the method was
found.

Results:
* `Arguments.Fit.bind`: binding keeps arguments well-typed and of the types they are declared at.
* `Invocation.Proper.ends`: a proper invocation returns a well-typed value or raises.
* `Run.proper`: every method that a run invokes is invoked properly.
* `fault_is_raised`: a script fails in a call only if the body of a method raises an error.
-/

namespace ObjectPath

variable {S : Schema}

/-! ## Arguments -/

namespace Arguments

/-- Every argument is well-typed and of its declared type. -/
def Fit (S : Schema) (args : Arguments) : Prop := ∀ a ∈ args.entries, S.Fits a.ty a.value

theorem fit_ofValues {values : List Value} (h : ∀ v ∈ values, S.WellTyped v) :
    (ofValues values).Fit S := by
  intro a ha
  obtain ⟨v, hv, rfl⟩ := List.mem_map.1 ha
  exact ⟨rfl, h v hv⟩

theorem of_bindOne {args : Arguments} {p : Placeholder} {a : Argument}
    (h : args.bindOne S p = .ok a) :
    ∃ given ∈ args.entries, S.clone given.value = .ok a.value ∧ a.ty = given.ty := by
  unfold bindOne at h
  split at h
  · simp at h
  · next given hgiven =>
    split at h
    · next copy hcopy =>
      cases h
      exact ⟨given, List.mem_of_getElem? hgiven, hcopy, rfl⟩
    · simp at h

/-- Every bound argument is the clone of a given one, of the same declared type. -/
theorem of_bind {args : Arguments} {params : List Placeholder} {bound : BoundCall}
    (h : args.bind S params = .ok bound) :
    ∀ a ∈ bound.entries, ∃ given ∈ args.entries,
      S.clone given.value = .ok a.value ∧ a.ty = given.ty := by
  obtain ⟨entries, hentries, rfl⟩ := Except.map_eq_ok_iff.1 h
  have hall := Except.mapM_eq_ok_iff.1 hentries
  clear hentries h
  induction hall with
  | nil => simp
  | cons hfirst _ ih => exact List.forall_mem_cons.2 ⟨of_bindOne hfirst, ih⟩

theorem Fit.bind (hS : S.Sound) {args : Arguments} (h : args.Fit S) {params : List Placeholder}
    {bound : BoundCall} (hb : args.bind S params = .ok bound) :
    ∀ a ∈ bound.entries, S.Fits a.ty a.value := by
  intro a ha
  obtain ⟨given, hgiven, hclone, hty⟩ := of_bind hb a ha
  obtain ⟨hfits, hwell⟩ := h given hgiven
  exact ⟨by rw [Schema.ty_of_clone hclone, hfits, hty], hwell.clone hS hclone⟩

end Arguments

/-! ## Proper invocations -/

namespace Invocation

/-- The method is declared by the class of its receiver and accepts the types of its arguments,
    and receiver and arguments are well-typed. -/
structure Proper (S : Schema) (call : Invocation) : Prop where
  receiver : S.WellTyped call.receiver.value
  args : ∀ v ∈ call.args, S.WellTyped v
  declared : call.method ∈ (S.classOf call.receiver.value.ty).methods
  accepts : call.method.accepts (call.args.map Value.ty) = true

/-- The body of the method is run on the converted arguments and raises the text. -/
def Raises (call : Invocation) (text : String) : Prop :=
  ∃ converted, ConvertsAll call.method.params call.args converted ∧
    (call.method.body.run call.method.name (some call.receiver.value) converted).outcome =
      .error (.raised text)

/-- None of the checks in front of the body fails. -/
theorem Proper.ends (hS : S.Sound) {call : Invocation} (h : call.Proper S) :
    (∀ w, call.run.outcome = .ok w → S.WellTyped w) ∧
      ∀ cause, call.run.outcome = .error cause →
        ∃ text, cause = .raised text ∧ call.Raises text := by
  obtain ⟨hconsistent, hsound⟩ := hS.method h.receiver h.declared
  obtain ⟨converted, hall, hrun⟩ := Method.invoke_of_accepts hconsistent h.accepts
  have hfits : List.Forall₂ S.Fits call.method.params converted := hall.fits h.args
  obtain ⟨hreturns, -⟩ := Body.Sound.run hsound ⟨rfl, h.receiver⟩ hfits call.method.name
  rw [run, hrun]
  refine ⟨hreturns, fun cause hcause => ?_⟩
  obtain ⟨text, rfl⟩ := Body.raised_of_run hcause
  exact ⟨text, rfl, converted, hall, hcause⟩

end Invocation

namespace Evaluation

variable {E : Evaluation}

theorem proper_of_invocation? (hS : E.schema.Sound) (hlookup : E.lookup = .typeAware)
    (hargs : E.args.Fit E.schema) {v : Value} (hv : E.schema.WellTyped v) {name : String}
    {params : List Placeholder} {call : Invocation} (h : E.invocation? v name params = some call) :
    call.Proper E.schema := by
  simp only [invocation?, Option.bind_eq_bind, Option.bind_eq_some_iff, Option.some.injEq] at h
  obtain ⟨bound, hbound, found, hfound, up, hup, rfl⟩ := h
  have hbind : E.args.bind E.schema params = .ok bound := by
    cases hb : E.args.bind E.schema params <;> simp_all [Except.toOption]
  have hfit := hargs.bind hS hbind
  -- the declared types that the method was chosen by are the types of the values
  have htypes : bound.types = bound.values.map Value.ty := by
    rw [BoundCall.types, BoundCall.values, List.map_map]
    exact List.map_congr_left fun a ha => (hfit a ha).1.symm
  rw [hlookup, Schema.resolveMethod] at hfound
  obtain ⟨howner, hmethod⟩ := Schema.of_findUp hfound
  obtain ⟨hmem, haccepts⟩ := Schema.of_method? hmethod
  obtain ⟨up', hup', hty, hwell⟩ := hv.ascend_lineage howner
  obtain rfl : up = up' := Option.some.inj (hup.symm.trans hup')
  refine ⟨hwell, fun v hv => ?_, hty ▸ hmem, htypes ▸ haccepts⟩
  obtain ⟨a, ha, rfl⟩ := List.mem_map.1 hv
  exact (hfit a ha).2

theorem wellTyped_of_fieldSpot? {v : Value} (hv : E.schema.WellTyped v) {name : String}
    {inside : Spot} (h : E.fieldSpot? v name = some inside) : E.schema.WellTyped inside.value := by
  simp only [fieldSpot?, Option.bind_eq_bind, Option.bind_eq_some_iff, Option.some.injEq] at h
  obtain ⟨found, -, owner, howner, field, hfield, rfl⟩ := h
  show E.schema.WellTyped field.value
  exact (hv.of_ascend? howner).of_field? hfield

/-! ## Runs -/

/-- Each method invoked returns a well-typed value, on which the next one is looked up. -/
theorem Run.proper (hS : E.schema.Sound) (hlookup : E.lookup = .typeAware)
    (hargs : E.args.Fit E.schema) {segments : List PlacedSegment} {target after : Value}
    {terminal : Option Value} {calls : List Invocation} {result : Except ScriptError Value}
    (h : E.Run segments target terminal calls result after) (ht : E.schema.WellTyped target) :
    ∀ call ∈ calls, call.Proper E.schema := by
  induction h with
  | null | ended | unknownField | lastField | unbound | unknownMethod => simp
  | hop _ hsee _ hspot _ ih => exact ih (wellTyped_of_fieldSpot? (ht.of_seeThrough hsee) hspot)
  | faulted hsee _ _ hcall | returned hsee _ _ hcall =>
    refine List.forall_mem_cons.2 ⟨?_, by simp⟩
    exact proper_of_invocation? hS hlookup hargs (ht.of_seeThrough hsee) hcall
  | continued _ hsee _ _ hcall hrun _ ih =>
    have hproper := proper_of_invocation? hS hlookup hargs (ht.of_seeThrough hsee) hcall
    exact List.forall_mem_cons.2 ⟨hproper, ih ((hproper.ends hS).1 _ hrun)⟩

/-- A script that fails in a call fails with the error of a method it invoked. -/
theorem Run.of_fault {segments : List PlacedSegment} {target after : Value}
    {terminal : Option Value} {calls : List Invocation} {result : Except ScriptError Value}
    (h : E.Run segments target terminal calls result after) {cls member script : String}
    {cause : InvokeError} (hr : result = .error (.invocationFault cls member script cause)) :
    ∃ call ∈ calls, call.run.outcome = .error cause := by
  induction h with
  | null | unknownField | unbound | unknownMethod | returned => simp [unknown] at hr
  | ended => simp at hr
  | lastField => exact (ofFields_of_finish hr).elim
  | hop _ _ _ _ _ ih => exact ih hr
  | @faulted _ _ _ _ _ _ _ _ call _ _ _ _ _ hrun =>
    simp only [Except.error.injEq, ScriptError.invocationFault.injEq] at hr
    obtain ⟨-, -, -, rfl⟩ := hr
    exact ⟨call, List.mem_cons_self, hrun⟩
  | continued _ _ _ _ _ _ _ ih =>
    obtain ⟨call, hcall, hrun⟩ := ih hr
    exact ⟨call, List.mem_cons_of_mem _ hcall, hrun⟩

/-- Evaluating a script on a well-typed target, with well-typed arguments of inferred types,
    fails in a call only if the method's body is run, on arguments converted to the types of its
    parameters, and raises an error. The checks for a receiver, for its type, for the number of
    arguments and for their types never fail. -/
theorem fault_is_raised (hS : E.schema.Sound) (hlookup : E.lookup = .typeAware)
    (hargs : E.args.Fit E.schema) {target : Value} (ht : E.schema.WellTyped target)
    {terminal : Option Value} {cls member script : String} {cause : InvokeError}
    (h : (E.evaluate target terminal).result =
      .error (.invocationFault cls member script cause)) :
    ∃ call ∈ E.invoked target terminal, ∃ text, cause = .raised text ∧ call.Raises text := by
  rcases E.evaluate_cases target terminal with ⟨_, -, -, hresult, -⟩ | hrun
  · simp [hresult] at h
  · obtain ⟨call, hcall, hcause⟩ := hrun.of_fault h
    have hproper := hrun.proper hS hlookup hargs ht call hcall
    obtain ⟨text, htext, hraises⟩ := (hproper.ends hS).2 cause hcause
    exact ⟨call, hcall, text, htext, hraises⟩

end Evaluation

/-! ## A gate that raises -/

namespace Sample

/-- A gate that wants a ticket, which may be missing. -/
def gate : ClassDecl :=
  ClassDecl.named "sample::Gate" [.plain "closed" .bool]
  |>.method "enter" [.optional (.int .i32)] (.shared fun _ args =>
      match args with
      | [.present ticket] => .ok ticket
      | _ => .error "no ticket")

/-- A gate with a name. -/
def mainGate : ClassDecl :=
  .named "sample::MainGate" [.embedding "gate" gate, .plain "name" .string]

/-- The two classes. -/
def gates : Schema := ⟨[gate, mainGate], by decide +kernel⟩

theorem sound_gates : gates.Sound := by
  refine Schema.sound_of_classes fun c hc => ?_
  have hc : c = gate ∨ c = mainGate := by simpa [gates] using hc
  rcases hc with rfl | rfl
  · have hcloning : gate.cloning = .slotwise := rfl
    refine ⟨by decide +kernel, by simp [hcloning], fun m hm => ?_⟩
    obtain rfl := List.mem_singleton.1 hm
    intro v args _ hargs w hw
    simp only at hw
    split at hw
    · next ticket =>
      cases hw
      exact (List.forall₂_cons.1 hargs).1.2
    · simp at hw
  · have hcloning : mainGate.cloning = .slotwise := rfl
    have hmethods : mainGate.methods = [] := rfl
    exact ⟨by decide +kernel, by simp [hcloning], by simp [hmethods]⟩

/-- Entering with the first argument as the ticket. -/
def entering (ticket : Value) : Evaluation :=
  ⟨gates, .typeAware, ⟨"enter(%1)", [⟨0, .call "enter" [⟨1, by decide, by decide⟩]⟩]⟩,
    .ofValues [ticket]⟩

end Sample

/-- The method is found one class up, and the null value stands for the missing ticket. -/
theorem Evaluation.inherited_fault_is_raised :
    ∃ call ∈ (Sample.entering .null).invoked Sample.mainGate.initial none, ∃ text,
      InvokeError.raised "no ticket" = .raised text ∧ call.Raises text :=
  fault_is_raised Sample.sound_gates rfl (Arguments.fit_ofValues (by simp [Schema.WellTyped]))
    (by decide +kernel : Sample.gates.WellTyped Sample.mainGate.initial)
    (rfl : ((Sample.entering .null).evaluate Sample.mainGate.initial none).result =
      .error (.invocationFault "sample::MainGate" "enter" "enter(%1)" (.raised "no ticket")))

end ObjectPath
