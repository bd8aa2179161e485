import ObjectPath.Part
import ObjectPath.Proofs.Atomicity
import ObjectPath.Proofs.CallSafety

/-!
# Types are preserved

Whatever is done to a value from outside, the value keeps its type, and every part of it keeps
the type that it should have. Each way of writing converts the new value to the type of the old
one, or refuses it; methods keep types if their bodies do; and what a part keeps, the whole
around it keeps, because the part is put back where it was.

Results:
* `Run.keeps`: evaluating segments keeps types, at whatever depth they reach.
* `Access.typed_assign`, `Schema.typed_store`: so do the other ways of writing.
* `Operation.typed_perform`: one operation keeps types, whether it succeeds or fails.
* `operations_preserve_types`: so does any sequence of operations, on the target or its parts.
-/

namespace ObjectPath

variable {S : Schema} {classes : ClassId → Prop}

/-! ## Evaluation -/

namespace Evaluation

variable {E : Evaluation}

/-- The last field gives a value that fits throughout, and keeps its type. -/
theorem typed_finish (hS : E.schema.Keeps classes) {field : Value}
    (hfield : E.schema.FitsThroughout classes field) {terminal : Option Value}
    (hnew : ∀ new, terminal = some new → E.schema.FitsThroughout classes new) (ty : Ty)
    (name : String) :
    (∀ w, (E.finish ty name field terminal).1 = .ok w → E.schema.FitsThroughout classes w) ∧
      E.schema.Typed classes field.ty (E.finish ty name field terminal).2 := by
  rcases E.finish_cases ty name field terminal with ⟨copy, -, hcopy, hdone⟩ |
    ⟨cause, -, -, hdone⟩ | ⟨new, stored, hsome, hstored, hdone⟩ | ⟨new, -, -, hdone⟩ <;> rw [hdone]
  · refine ⟨fun w hw => ?_, rfl, hfield⟩
    cases hw
    exact hfield.clone hS.toCopiesFit hcopy
  · exact ⟨by simp, rfl, hfield⟩
  · refine ⟨fun w hw => ?_, .of_overwrite? (hnew new hsome) hstored⟩
    cases hw
    exact hfield
  · exact ⟨by simp, rfl, hfield⟩

/-- An invocation returns a value that fits throughout, and the value that it was made on keeps
    its type. -/
theorem typed_invocation (hS : E.schema.Keeps classes)
    (hargs : ∀ a ∈ E.args.entries, E.schema.FitsThroughout classes a.value) {v : Value}
    (hv : E.schema.FitsThroughout classes v) {name : String} {params : List Placeholder}
    {call : Invocation} (h : E.invocation? v name params = some call) :
    (∀ w, call.run.outcome = .ok w → E.schema.FitsThroughout classes w) ∧
      E.schema.Typed classes v.ty (call.after v) := by
  simp only [invocation?, Option.bind_eq_bind, Option.bind_eq_some_iff, Option.some.injEq] at h
  obtain ⟨bound, hbound, found, hfound, up, hup, rfl⟩ := h
  have hbind : E.args.bind E.schema params = .ok bound := by
    cases hb : E.args.bind E.schema params <;> simp_all [Except.toOption]
  have hvalues : ∀ a ∈ bound.values, E.schema.FitsThroughout classes a := by
    intro value hvalue
    obtain ⟨a, ha, rfl⟩ := List.mem_map.1 hvalue
    obtain ⟨given, hgiven, hclone, -⟩ := Arguments.of_bind hbind a ha
    exact (hargs given hgiven).clone hS.toCopiesFit hclone
  obtain ⟨howner, hmethod⟩ := Schema.of_resolveMethod hfound
  have hkeeps : found.member.Keeps E.schema classes :=
    hS.method hv (List.mem_of_getElem? howner) (Schema.mem_methodsNamed.1 hmethod).1
  have hin : up.In v := Schema.in_of_ascend? hup
  obtain ⟨hreturn, hreceiver⟩ := hkeeps.invoke (hv.of_in hin) hvalues
  exact ⟨hreturn, hv.put_spot hin hreceiver⟩

theorem Run.keeps (hS : E.schema.Keeps classes)
    (hargs : ∀ a ∈ E.args.entries, E.schema.FitsThroughout classes a.value)
    {segments : List PlacedSegment} {target after : Value} {terminal : Option Value}
    {calls : List Invocation} {result : Except ScriptError Value}
    (h : E.Run segments target terminal calls result after)
    (ht : E.schema.FitsThroughout classes target)
    (hnew : ∀ new, terminal = some new → E.schema.FitsThroughout classes new) :
    (∀ w, result = .ok w → E.schema.FitsThroughout classes w) ∧
      E.schema.Typed classes target.ty after := by
  induction h with
  | null | unknownField | unbound | unknownMethod => exact ⟨by simp, rfl, ht⟩
  | ended hsee =>
    refine ⟨fun w hw => ?_, rfl, ht⟩
    exact (ht.of_in (Value.seeThrough_in hsee)).clone hS.toCopiesFit (Except.mapError_eq_ok_iff.1 hw)
  | @lastField _ target _ here inside name hsee _ hspot =>
    have hin : (here.within inside).In target :=
      .within (Value.seeThrough_in hsee) (in_of_fieldSpot? hspot)
    obtain ⟨hresult, hfield⟩ := typed_finish hS (ht.of_in hin) hnew here.value.ty name
    exact ⟨hresult, ht.put_spot hin hfield⟩
  | @hop _ _ target _ _ here inside _ _ _ _ hsee _ hspot _ ih =>
    have hin : (here.within inside).In target :=
      .within (Value.seeThrough_in hsee) (in_of_fieldSpot? hspot)
    have hinside := ht.of_in hin
    obtain ⟨hresult, hinner⟩ := ih hinside hnew
    exact ⟨hresult, ht.put_spot hin hinner⟩
  | faulted hsee _ _ hcall =>
    have hin := Value.seeThrough_in hsee
    obtain ⟨-, hafter⟩ := typed_invocation hS hargs (ht.of_in hin) hcall
    exact ⟨by simp, ht.put_spot hin hafter⟩
  | returned hsee _ _ hcall hrun =>
    have hin := Value.seeThrough_in hsee
    obtain ⟨hreturn, hafter⟩ := typed_invocation hS hargs (ht.of_in hin) hcall
    refine ⟨fun w hw => ?_, ht.put_spot hin hafter⟩
    cases hw
    exact hreturn _ hrun
  | continued _ hsee _ _ hcall hrun _ ih =>
    have hin := Value.seeThrough_in hsee
    obtain ⟨hreturn, hafter⟩ := typed_invocation hS hargs (ht.of_in hin) hcall
    -- what follows is done to the returned value; only the receiver is put back
    obtain ⟨hresult, -⟩ := ih (hreturn _ hrun) (by simp)
    exact ⟨hresult, ht.put_spot hin hafter⟩

theorem typed_evaluate (hS : E.schema.Keeps classes)
    (hargs : ∀ a ∈ E.args.entries, E.schema.FitsThroughout classes a.value) {target : Value}
    (ht : E.schema.FitsThroughout classes target) {terminal : Option Value}
    (hnew : ∀ new, terminal = some new → E.schema.FitsThroughout classes new) :
    E.schema.Typed classes target.ty (E.evaluate target terminal).target := by
  rcases E.evaluate_cases target terminal with ⟨_, -, -, -, hkept⟩ | hrun
  · rw [hkept]
    exact ⟨rfl, ht⟩
  · exact (hrun.keeps hS hargs ht hnew).2

end Evaluation

/-! ## Writing -/

namespace Access

theorem typed_fill {field new : Value} (hfield : S.FitsThroughout classes field)
    (hnew : S.FitsThroughout classes new) (script : String) (owner : Ty) (name : String) :
    S.Typed classes field.ty (fill script owner name field new).2 := by
  unfold fill
  cases hstored : field.overwrite? new with
  | none => exact ⟨rfl, hfield⟩
  | some stored => exact .of_overwrite? hnew hstored

theorem typed_write {target new : Value} (ht : S.FitsThroughout classes target)
    (hnew : S.FitsThroughout classes new) (script name : String) :
    S.Typed classes target.ty (write S script target name new).target := by
  unfold write
  cases hfield : declared S script target name with
  | error e => exact ⟨rfl, ht⟩
  | ok field =>
    have hin := in_of_declared hfield
    exact ht.put_spot hin (typed_fill (ht.of_in hin) hnew _ _ _)

theorem typed_assign {target new : Value} (ht : S.FitsThroughout classes target)
    (hnew : S.FitsThroughout classes new) (path : String) :
    S.Typed classes target.ty (assign S target path new).target := by
  unfold assign
  cases hparent : follow S path (Text.frontParts '.' path) target with
  | error e => simpa [hparent] using ⟨rfl, ht⟩
  | ok parent =>
    have hin := in_of_follow hparent
    simpa [hparent] using ht.put_spot hin (typed_write (ht.of_in hin) hnew path _)

theorem typed_assignField {target new : Value} (ht : S.FitsThroughout classes target)
    (hnew : S.FitsThroughout classes new) (name : String) :
    S.Typed classes target.ty (assignField S target name new).target := by
  unfold assignField
  cases rejectDotted target name with
  | error e => exact ⟨rfl, ht⟩
  | ok u => exact typed_write ht hnew name name

end Access

theorem Schema.typed_store {v new old changed : Value} {levels : Nat} {part : Part}
    (hv : S.FitsThroughout classes v) (hnew : S.FitsThroughout classes new)
    (h : S.store v levels part new = .ok (.done old changed)) : S.Typed classes v.ty changed := by
  unfold store at h
  cases hpart : S.partAt v levels part with
  | error e => simp [hpart, bind, Except.bind] at h
  | ok found =>
    cases found with
    | none => simp [hpart, bind, Except.bind] at h
    | some spot =>
      cases hstored : spot.value.overwrite? new with
      | none => simp [hpart, hstored, bind, Except.bind] at h
      | some stored =>
        simp only [hpart, hstored, bind, Except.bind, Except.ok.injEq, Stored.done.injEq] at h
        obtain ⟨-, rfl⟩ := h
        exact hv.put_spot (in_of_partAt hpart) (.of_overwrite? hnew hstored)

/-! ## Operations -/

/-- Something that is done to a value from outside. -/
inductive Operation where
  /-- A script is evaluated, with a value to assign at its end or none. -/
  | evaluate (lookup : Lookup) (script : Script) (args : Arguments) (terminal : Option Value)
  /-- A value is written at a path of declared fields. -/
  | assign (path : String) (new : Value)
  /-- A value is written in a declared field. -/
  | assignField (name : String) (new : Value)
  /-- A value is stored in a part of the value or of one of its base objects. -/
  | store (levels : Nat) (part : Part) (new : Value)
  /-- The value itself is overwritten. -/
  | overwrite (new : Value)
  /-- One of the methods of that name of the value's own class is invoked, such as `push` of a
      vector. -/
  | invoke (name : String) (nth : Nat) (args : List Value)

namespace Operation

/-- The values that the operation brings with it. -/
def values : Operation → List Value
  | evaluate _ _ args terminal => args.entries.map (·.value) ++ terminal.toList
  | assign _ new | assignField _ new | store _ _ new | overwrite new => [new]
  | invoke _ _ args => args

/-- What the operation makes of the value, whether it succeeds or fails. -/
def perform (S : Schema) : Operation → Value → Value
  | evaluate lookup script args terminal, v =>
    (Evaluation.evaluate ⟨S, lookup, script, args⟩ v terminal).target
  | assign path new, v => (Access.assign S v path new).target
  | assignField name new, v => (Access.assignField S v name new).target
  | store levels part new, v =>
    match S.store v levels part new with
    | .ok (.done _ changed) => changed
    | _ => v
  | overwrite new, v => (v.overwrite? new).getD v
  | invoke name nth args, v =>
    match ((S.classOf v.ty).methodsNamed name)[nth]? with
    | some m => (m.invoke (some v) args).receiver.getD v
    | none => v

theorem typed_perform (hS : S.Keeps classes) {op : Operation}
    (hvalues : ∀ value ∈ op.values, S.FitsThroughout classes value) {v : Value}
    (hv : S.FitsThroughout classes v) : S.Typed classes v.ty (op.perform S v) := by
  have hsame : S.Typed classes v.ty v := ⟨rfl, hv⟩
  cases op with
  | evaluate lookup script args terminal =>
    refine Evaluation.typed_evaluate (E := ⟨S, lookup, script, args⟩) hS (fun a ha => ?_) hv
      fun new hnew => ?_
    · exact hvalues a.value (List.mem_append_left _ (List.mem_map_of_mem ha))
    · exact hvalues new (List.mem_append_right _ (by simp [hnew]))
  | assign path new => exact Access.typed_assign hv (hvalues new List.mem_cons_self) path
  | assignField name new => exact Access.typed_assignField hv (hvalues new List.mem_cons_self) name
  | store levels part new =>
    rw [perform]
    split
    · next old changed hdone => exact S.typed_store hv (hvalues new List.mem_cons_self) hdone
    · exact hsame
  | overwrite new =>
    rw [perform]
    cases hstored : v.overwrite? new with
    | none => exact hsame
    | some stored => exact .of_overwrite? (hvalues new List.mem_cons_self) hstored
  | invoke name nth args =>
    rw [perform]
    split
    · next m hm =>
      have hmem := (List.mem_filter.1 (List.mem_of_getElem? hm)).1
      have hkeeps := hS.method hv (S.self_mem_ancestors v.ty) hmem
      exact (hkeeps.invoke hv hvalues).2
    · exact hsame

end Operation

/-- An operation on what lies at a place. -/
structure Action where
  place : Place
  operation : Operation

namespace Action

/-- What the action makes of the target; nothing if there is no such place. -/
def perform (S : Schema) (action : Action) (target : Value) : Value :=
  match target.at? action.place with
  | some part => target.put action.place (action.operation.perform S part)
  | none => target

/-- What the actions, one after the other, make of the target. -/
def performAll (S : Schema) (actions : List Action) (target : Value) : Value :=
  actions.foldl (fun target action => action.perform S target) target

theorem typed_perform (hS : S.Keeps classes) {action : Action}
    (hvalues : ∀ value ∈ action.operation.values, S.FitsThroughout classes value) {target : Value}
    (ht : S.FitsThroughout classes target) :
    S.Typed classes target.ty (action.perform S target) := by
  unfold perform
  cases hpart : target.at? action.place with
  | none => exact ⟨rfl, ht⟩
  | some part => exact ht.put hpart (Operation.typed_perform hS hvalues (ht.at? hpart))

end Action

/-- Any sequence of operations, on the target or on parts of it, successful or not, keeps the type
    of the target, and every type in it, as long as the values that come in fit throughout and
    the bodies of methods, and the classes' own ways of copying, keep types.

    Which classes objects may be of is left open. With the derived classes, this is about
    well-typed values, by `Schema.wellTyped_iff`; with more classes, objects of those may come
    in and be stored, too. -/
theorem operations_preserve_types (hS : S.Keeps classes) {actions : List Action}
    (hvalues : ∀ action ∈ actions, ∀ value ∈ action.operation.values,
      S.FitsThroughout classes value)
    {target : Value} (ht : S.FitsThroughout classes target) :
    S.FitsThroughout classes (Action.performAll S actions target) ∧
      (Action.performAll S actions target).ty = target.ty := by
  induction actions generalizing target with
  | nil => exact ⟨ht, rfl⟩
  | cons action rest ih =>
    obtain ⟨hfirst, hrest⟩ := List.forall_mem_cons.1 hvalues
    obtain ⟨hty, hfits⟩ := Action.typed_perform hS hfirst ht
    obtain ⟨hafter, hkept⟩ := ih hrest hfits
    exact ⟨hafter, hkept.trans hty⟩

/-! ## A queue in an office -/

namespace Sample

/-- A queue of people who may not give their names. -/
def queue : ClassDecl :=
  ClassDecl.named "sample::Queue"
    [.plain "waiting" (.vector (.optional .string)), .hidden "served" (.int .u64)]
  |>.method "join" [.optional .string] (.writes fun v args =>
      let waiting := (v.slotAt [0]).appended (argument args 0)
      (.size waiting.count, v.fill [0] waiting))

/-- An office with a queue, and perhaps another one. -/
def office : ClassDecl :=
  .named "sample::Office"
    [.embedding "queue" queue, .plain "open" .bool, .plain "other" (.optional queue.objects)]

/-- The two classes. -/
def offices : Schema := ⟨[queue, office], by decide +kernel⟩

/-- Joining puts a name, or none, where names, or none, are expected. -/
theorem keeps_join : ∀ m ∈ queue.methods, m.Keeps offices offices.IsDerived := by
  intro m hm
  obtain rfl := List.mem_singleton.1 hm
  intro v args hv hself hargs
  have hty : v.ty = queue.objects := hself _ rfl
  refine ⟨fun w hw => ?_, ?_⟩
  · cases hw
    exact .of_no_parts rfl trivial
  obtain ⟨arg, rfl⟩ := List.length_eq_one_iff.1 hargs.length_eq.symm
  have harg : offices.Typed offices.IsDerived (.optional .string) arg :=
    (List.forall₂_cons.1 hargs).1
  cases v with
  | object id slots =>
    cases hty
    have hdecl : (offices.decl queue.id).slots[0]? =
        some (.plain "waiting" (.vector (.optional .string))) := rfl
    obtain ⟨waiting, hslot, hwaiting, hfits⟩ := hv.exists_slot hdecl
    have hat : (Value.object queue.id slots).at? (Value.slotPlace [0]) = some waiting := by
      simp [Value.slotPlace, Value.at?, Value.child?, hslot]
    refine hv.put hat ?_
    rw [Value.slotAt, hat, Option.getD_some]
    cases waiting with
    | vector element items =>
      cases hwaiting
      exact ⟨rfl, hfits.append harg⟩
    | _ => cases hwaiting
  | _ => cases hty

theorem keeps_offices : offices.Keeps offices.IsDerived := by
  refine Schema.keeps_of_classes fun c hc => ?_
  have hc : c = queue ∨ c = office := by simpa [offices] using hc
  rcases hc with rfl | rfl
  · have hcloning : queue.cloning = .slotwise := rfl
    have hinitials : ∀ slot ∈ queue.slots, slot.role = .ignored →
        offices.Fits slot.ty slot.initial := by decide +kernel
    exact ⟨fun slot hslot hrole => Schema.typed_isDerived_iff.2 (hinitials slot hslot hrole),
      by simp [hcloning], keeps_join⟩
  · have hcloning : office.cloning = .slotwise := rfl
    have hmethods : office.methods = [] := rfl
    have hvisible : ∀ slot ∈ office.slots, slot.role ≠ .ignored := by decide +kernel
    exact ⟨fun slot hslot hrole => absurd hrole (hvisible slot hslot), by simp [hcloning],
      by simp [hmethods]⟩

theorem one_lt_wordSize : 1 < wordSize := by decide

/-- The placeholder of the first argument. -/
def firstArgument : Placeholder := ⟨1, Nat.one_pos, one_lt_wordSize⟩

/-- Somebody joins the queue without a name, the queue is asked to take a truth value for a name,
    the office is told to be "shut", and another queue is put up. -/
def officeHours : List Action :=
  [⟨[], .evaluate .typeAware ⟨"join(%1)", [⟨0, .call "join" [firstArgument]⟩]⟩
      (.ofValues [.null]) none⟩,
   ⟨[.slot 0, .slot 0], .invoke "push" 0 [.bool true]⟩,
   ⟨[], .assign "open" (.string "shut")⟩,
   ⟨[], .store 0 (.named "other") queue.initial⟩]

end Sample

theorem office_hours_keep_types :
    Sample.offices.FitsThroughout Sample.offices.IsDerived
        (Action.performAll Sample.offices Sample.officeHours Sample.office.initial) ∧
      (Action.performAll Sample.offices Sample.officeHours Sample.office.initial).ty =
        Sample.office.initial.ty := by
  refine operations_preserve_types Sample.keeps_offices ?_
    (Schema.wellTyped_iff.1 (by decide +kernel))
  intro action haction value hvalue
  refine Schema.wellTyped_iff.1 ?_
  have hall : ∀ action ∈ Sample.officeHours, ∀ value ∈ action.operation.values,
      Sample.offices.WellTyped value := by decide +kernel
  exact hall action haction value hvalue

end ObjectPath
