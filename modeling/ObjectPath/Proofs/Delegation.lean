import ObjectPath.Proofs.Conformity
import ObjectPath.Proofs.Lookup
import ObjectPath.Proofs.Separation

/-!
# Inheritance is delegation

Members are looked up along the chain of base classes, and found a number of levels up; the
receiver is then moved up as many levels along the embedded base objects. Where a class declares
nothing that fits, both walks begin with the same step to the base. What is left of them is the
lookup that starts at the base class and the way up that starts at the base object.

Results:
* `Evaluation.fieldSpot?_of_base`, `Evaluation.call_of_base`: fields and calls that a class does
  not declare are those of the base object.
* `Evaluation.undeclared_members_are_delegated`: so are whole scripts, but for the class that
  the failure of their first segment names.
-/

namespace ObjectPath

/-! ## Base objects -/

/-- Only values of optional types have optional layers. -/
theorem Value.seeThrough_of_ty {v : Value} (h : ∀ inner, v.ty ≠ .optional inner) :
    v.seeThrough = .ok (.whole v) := by
  cases v with
  | absent inner => exact absurd rfl (h inner)
  | present payload => exact absurd rfl (h payload.ty)
  | _ => rfl

/-- Every slot of an object holds a value of the type that its class declares for the slot. -/
theorem Schema.PartsFit.slotSpot {S : Schema} {classes : ClassId → Prop} {id : ClassId}
    {slots : List Value} (h : S.PartsFit classes (.object id slots)) {role : Role}
    {entry : Slot × Nat} (he : entry ∈ (S.decl id).slotsOf role) :
    ∃ spot, slotSpot? (.object id slots) entry = some spot ∧ spot.value.ty = entry.1.ty := by
  obtain ⟨hposition, -⟩ := mem_slotsOf.1 he
  have hty := congrArg (·[entry.2]?) h.2
  simp only [List.getElem?_map, hposition, Option.map_some, Option.map_eq_some_iff] at hty
  obtain ⟨part, hpart, hty⟩ := hty
  refine ⟨⟨[.slot entry.2], part⟩, ?_, hty⟩
  rw [slotSpot?, Value.child?, hpart]
  rfl

/-- An object of a derived class that has a base class has a base object of that class. -/
theorem Schema.PartsFit.base {S : Schema} {v : Value} (h : S.PartsFit S.IsDerived v) {b : Member}
    (hbase : (S.classOf v.ty).base = some b) :
    ∃ up, S.base? v = some up ∧ up.value.ty = b.ty := by
  cases v with
  | object id slots =>
    obtain ⟨hopen, -, hslot, -⟩ := h.1
    obtain ⟨entry, hentry, rfl⟩ := Option.map_eq_some_iff.1 (hslot.symm.trans hbase)
    obtain ⟨up, hup, hty⟩ := h.slotSpot (List.mem_of_mem_head? hentry)
    exact ⟨up, by simp [base?, structOf?, hopen, hentry, hup], hty⟩
  | _ => cases hbase

theorem Schema.ascend?_succ {S : Schema} {v : Value} {up : Spot} (hup : S.base? v = some up)
    (depth : Nat) : S.ascend? v (depth + 1) = (S.ascend? up.value depth).map up.within := by
  simp only [ascend?, hup, Option.bind_eq_bind, Option.bind_some]
  cases S.ascend? up.value depth <;> rfl

/-! ## Failures for another class -/

/-- The same failure, reported for another class. -/
def ScriptError.reportedFor (cls : String) : ScriptError → ScriptError
  | invalidScript _ script reason => invalidScript cls script reason
  | memberNotFound _ member script => memberNotFound cls member script
  | invocationFault _ member script cause => invocationFault cls member script cause
  | classNotFound _ script => classNotFound cls script
  | nullTarget _ script => nullTarget cls script
  | typeMismatch _ member expected found script => typeMismatch cls member expected found script
  | notCloneable _ member script cause => notCloneable cls member script cause
  | detachedAssignment _ member script => detachedAssignment cls member script

namespace Evaluation

variable {E : Evaluation}

/-- The end of a script at a field depends on the class around the field only in what a failure
    is reported for. -/
theorem finish_reportedFor (E : Evaluation) (ty other : Ty) (name : String) (field : Value)
    (terminal : Option Value) :
    (E.finish ty name field terminal).1 =
        (E.finish other name field terminal).1.mapError (·.reportedFor ty.path) ∧
      (E.finish ty name field terminal).2 = (E.finish other name field terminal).2 := by
  cases terminal with
  | none =>
    simp only [finish]
    cases E.schema.clone field <;> exact ⟨rfl, trivial⟩
  | some new =>
    simp only [finish]
    cases field.overwrite? new <;> exact ⟨rfl, rfl⟩

/-! ## One segment -/

/-- The class declares no field of that name, or no method of that name for arguments that the
    call can be given. -/
def Undeclared (E : Evaluation) (ty : Ty) : Segment → Prop
  | .field name => (E.schema.classOf ty).field? name = none
  | .call name params => ∀ bound, E.args.bind E.schema params = .ok bound →
      (E.schema.classOf ty).method? name bound.types = none

theorem fieldSpot?_of_base {v : Value} {up : Spot} {name : String}
    (hbase : (E.schema.classOf v.ty).base.map Member.ty = some up.value.ty)
    (hup : E.schema.base? v = some up) (hown : E.Undeclared v.ty (.field name)) :
    E.fieldSpot? v name = (E.fieldSpot? up.value name).map up.within := by
  obtain ⟨b, hb, hty⟩ := Option.map_eq_some_iff.1 hbase
  have hnone : (E.schema.classOf v.ty).field? name = none := hown
  have hfound : E.schema.resolveField v.ty name =
      (E.schema.resolveField up.value.ty name).map Found.fromBelow := by
    rw [Schema.resolveField, Schema.findUp_of_base hb hnone, hty]
    rfl
  rw [fieldSpot?_eq, fieldSpot?_eq, hfound]
  cases E.schema.resolveField up.value.ty name with
  | none => rfl
  | some found =>
    show E.schema.fieldUp? v (found.depth + 1) name =
      (E.schema.fieldUp? up.value found.depth name).map up.within
    rw [Schema.fieldUp?_succ, hup, Option.bind_some]

/-- A call on a value whose class does not declare the method is the call on the base object, but
    for the class that a failure is reported for. -/
theorem call_of_base {v : Value} {up : Spot} {name : String} {params : List Placeholder}
    (hlookup : E.lookup = .typeAware)
    (hbase : (E.schema.classOf v.ty).base.map Member.ty = some up.value.ty)
    (hup : E.schema.base? v = some up) (hown : E.Undeclared v.ty (.call name params)) :
    (E.call v.ty (some v) name params).result =
        (E.call up.value.ty (some up.value) name params).result.mapError
          (·.reportedFor v.ty.path) ∧
      (E.call v.ty (some v) name params).receiver.getD v =
        v.put up.place
          ((E.call up.value.ty (some up.value) name params).receiver.getD up.value) := by
  obtain ⟨b, hb, hty⟩ := Option.map_eq_some_iff.1 hbase
  have hin : up.In v := Schema.in_of_base? hup
  have hkept : v.put up.place up.value = v := Value.put_at? hin
  -- the arguments are bound without regard to the receiver
  cases hbind : E.args.bind E.schema params with
  | error reason =>
    rw [call_of_unbound hbind, call_of_unbound hbind]
    exact ⟨rfl, hkept.symm⟩
  | ok bound =>
    have hfound : E.schema.resolveMethod E.lookup v.ty name bound.types =
        (E.schema.resolveMethod E.lookup up.value.ty name bound.types).map Found.fromBelow := by
      rw [hlookup, Schema.resolveMethod, Schema.findUp_of_base hb (hown bound hbind), hty]
      rfl
    cases habove : E.schema.resolveMethod E.lookup up.value.ty name bound.types with
    | none =>
      rw [habove, Option.map_none] at hfound
      rw [call_of_unresolved hbind hfound, call_of_unresolved hbind habove]
      exact ⟨rfl, hkept.symm⟩
    | some found =>
      rw [habove, Option.map_some] at hfound
      -- one more level to go up, and the first of them leads to the base object
      have hascend : E.schema.ascend? v found.fromBelow.depth =
          (E.schema.ascend? up.value found.depth).map up.within :=
        Schema.ascend?_succ hup found.depth
      cases howner : E.schema.ascend? up.value found.depth with
      | none =>
        rw [howner, Option.map_none] at hascend
        rw [call_some_of_no_base hbind hfound hascend, call_some_of_no_base hbind habove howner]
        exact ⟨rfl, hkept.symm⟩
      | some owner =>
        rw [howner, Option.map_some] at hascend
        rw [call_some hbind hfound hascend, call_some hbind habove howner]
        refine ⟨?_, hin.put_within owner _⟩
        show (found.member.invoke (some owner.value) bound.values).outcome.mapError _ = _
        cases (found.member.invoke (some owner.value) bound.values).outcome <;> rfl

/-! ## Scripts -/

/-- The failure of the first segment itself on a value without optional layers: its member is
    unknown, or it is the last one and the field cannot be read or written, or it is a call that
    fails. -/
def hopFailure? (E : Evaluation) (first : PlacedSegment) (isLast : Bool) (v : Value)
    (terminal : Option Value) : Option ScriptError :=
  match first.segment with
  | .field name =>
    match E.fieldSpot? v name with
    | none => some (E.unknown v.ty name)
    | some inside =>
      if isLast then (E.finish v.ty name inside.value terminal).1.failure? else none
  | .call name params => (E.call v.ty (some v) name params).result.failure?

/-- What evaluating on a value came to is what evaluating on its base object came to: the same
    failure of the first segment, reported for the class of the value, or else the same result;
    and of the value, only the base object has changed. -/
structure Delegates (v : Value) (up : Spot) (failure : Option ScriptError)
    (whole inner : Outcome) : Prop where
  failed : ∀ e, failure = some e →
    inner.result = .error e ∧ whole.result = .error (e.reportedFor v.ty.path)
  agreed : failure = none → whole.result = inner.result
  target : whole.target = v.put up.place inner.target

/-- The first segment decides about the result alone. -/
theorem Delegates.of_result {v : Value} {up : Spot} {whole inner : Outcome}
    (hresult : whole.result = inner.result.mapError (·.reportedFor v.ty.path))
    (htarget : whole.target = v.put up.place inner.target) :
    Delegates v up inner.result.failure? whole inner := by
  refine ⟨?_, ?_, htarget⟩
  · intro e he
    cases hinner : inner.result with
    | ok value => simp [hinner, Except.failure?] at he
    | error cause =>
      obtain rfl : cause = e := by simpa [hinner, Except.failure?] using he
      exact ⟨rfl, by rw [hresult, hinner, Except.mapError]⟩
  · intro hnone
    cases hinner : inner.result with
    | ok value => rw [hresult, hinner, Except.mapError]
    | error cause => simp [hinner, Except.failure?] at hnone

section

variable {v : Value} {up : Spot} {first : PlacedSegment}
  (hbase : (E.schema.classOf v.ty).base.map Member.ty = some up.value.ty)
  (hup : E.schema.base? v = some up)
  (hsee : v.seeThrough = .ok (.whole v)) (hseeUp : up.value.seeThrough = .ok (.whole up.value))

include hbase hup hsee hseeUp

theorem delegates_of_field {name : String} (hseg : first.segment = .field name)
    (hown : E.Undeclared v.ty (.field name)) (rest : List PlacedSegment)
    (terminal : Option Value) :
    Delegates v up (E.hopFailure? first rest.isEmpty up.value terminal)
      (E.step (first :: rest) v terminal) (E.step (first :: rest) up.value terminal) := by
  have hin : up.In v := Schema.in_of_base? hup
  have hspot := fieldSpot?_of_base hbase hup hown
  cases hinside : E.fieldSpot? up.value name with
  | none =>
    rw [hinside, Option.map_none] at hspot
    have hkept : v.put up.place up.value = v := Value.put_at? hin
    have hstep := step_unknownField hsee hseg hspot rest terminal
    have hstepUp := step_unknownField hseeUp hseg hinside rest terminal
    have hfailure : E.hopFailure? first rest.isEmpty up.value terminal =
        (E.step (first :: rest) up.value terminal).result.failure? := by
      simp [hopFailure?, hseg, hinside, hstepUp, Except.failure?, Spot.whole]
    rw [hfailure]
    refine .of_result ?_ ?_
    · rw [hstep, hstepUp]
      rfl
    · rw [hstep, hstepUp]
      exact hkept.symm
  | some inside =>
    rw [hinside, Option.map_some] at hspot
    have hput (new : Value) : v.put ((Spot.whole v).within (up.within inside)).place new =
        v.put up.place (up.value.put ((Spot.whole up.value).within inside).place new) :=
      hin.put_within inside new
    by_cases hrest : rest = []
    · -- the last field: its class is named if it cannot be read or written
      subst hrest
      obtain ⟨hresult, hfield⟩ := E.finish_reportedFor v.ty up.value.ty name inside.value terminal
      have hstep := step_field hsee hseg hspot terminal
      have hstepUp := step_field hseeUp hseg hinside terminal
      have hfailure : E.hopFailure? first true up.value terminal =
          (E.step [first] up.value terminal).result.failure? := by
        simp [hopFailure?, hseg, hinside, hstepUp, Spot.whole]
      rw [List.isEmpty_nil]
      rw [hfailure]
      refine .of_result ?_ ?_
      · rw [hstep, hstepUp]
        exact hresult
      · rw [hstep, hstepUp, ← hput]
        exact congrArg _ hfield
    · have hfailure : E.hopFailure? first rest.isEmpty up.value terminal = none := by
        simp [hopFailure?, hseg, hinside, hrest]
      rw [hfailure, step_hop hrest hsee hseg hspot, step_hop hrest hseeUp hseg hinside]
      exact ⟨by simp, fun _ => rfl, hput _⟩

theorem delegates_of_call {name : String} {params : List Placeholder}
    (hlookup : E.lookup = .typeAware) (hseg : first.segment = .call name params)
    (hown : E.Undeclared v.ty (.call name params)) (rest : List PlacedSegment)
    (terminal : Option Value) :
    Delegates v up (E.hopFailure? first rest.isEmpty up.value terminal)
      (E.step (first :: rest) v terminal) (E.step (first :: rest) up.value terminal) := by
  obtain ⟨hresult, hreceiver⟩ := call_of_base hlookup hbase hup hown
  obtain ⟨hstep, htarget⟩ := step_call (E := E) hsee hseg rest terminal
  obtain ⟨hstepUp, htargetUp⟩ := step_call (E := E) hseeUp hseg rest terminal
  have hfailure : E.hopFailure? first rest.isEmpty up.value terminal =
      (E.call up.value.ty (some up.value) name params).result.failure? := by
    simp [hopFailure?, hseg]
  have hput : (E.step (first :: rest) v terminal).target =
      v.put up.place (E.step (first :: rest) up.value terminal).target :=
    htarget.trans (hreceiver.trans (congrArg _ htargetUp.symm))
  simp only [Spot.whole, hresult] at hstep hstepUp
  rw [hfailure]
  cases hcall : (E.call up.value.ty (some up.value) name params).result with
  | error e =>
    rw [hcall] at hstep hstepUp
    refine ⟨?_, by simp [Except.failure?], hput⟩
    rintro _ ⟨⟩
    exact ⟨hstepUp, hstep⟩
  | ok value =>
    rw [hcall] at hstep hstepUp
    exact ⟨by simp [Except.failure?], fun _ => hstep.trans hstepUp.symm, hput⟩

end

/-- Where the class of a value does not declare what a script begins with, the script does to the
    value what it does to the base object: it gives the same result, or fails in the same way, and
    only the base object is changed. The class that the first segment's own failure names is the
    class of the value for the one, and the class of the base object for the other. -/
theorem undeclared_members_are_delegated (E : Evaluation) (hlookup : E.lookup = .typeAware)
    {v : Value} (hderived : E.schema.PartsFit E.schema.IsDerived v) {b : Member}
    (hbase : (E.schema.classOf v.ty).base = some b) (hnullable : ∀ inner, b.ty ≠ .optional inner)
    {first : PlacedSegment} {rest : List PlacedSegment}
    (hscript : E.script.segments = first :: rest) (hown : E.Undeclared v.ty first.segment)
    (terminal : Option Value)
    (hattached : ∀ cls member, (E.evaluate v terminal).result ≠
      .error (.detachedAssignment cls member E.source)) :
    ∃ up, E.schema.base? v = some up ∧ up.value.ty = b.ty ∧
      Delegates v up (E.hopFailure? first rest.isEmpty up.value terminal)
        (E.evaluate v terminal) (E.evaluate up.value terminal) := by
  obtain ⟨up, hup, hty⟩ := hderived.base hbase
  refine ⟨up, hup, hty, ?_⟩
  have hbase' : (E.schema.classOf v.ty).base.map Member.ty = some up.value.ty := by
    rw [hbase, hty, Option.map_some]
  have hsee : v.seeThrough = .ok (.whole v) := by
    refine Value.seeThrough_of_ty fun inner hoptional => ?_
    rw [hoptional] at hbase
    cases hbase
  have hseeUp : up.value.seeThrough = .ok (.whole up.value) :=
    Value.seeThrough_of_ty (hty ▸ hnullable)
  have hstep : Delegates v up (E.hopFailure? first rest.isEmpty up.value terminal)
      (E.step (first :: rest) v terminal) (E.step (first :: rest) up.value terminal) := by
    cases hseg : first.segment with
    | field name =>
      rw [hseg] at hown
      exact delegates_of_field hbase' hup hsee hseeUp hseg hown rest terminal
    | call name params =>
      rw [hseg] at hown
      exact delegates_of_call hbase' hup hsee hseeUp hlookup hseg hown rest terminal
  have hbehind := attached_of_result hattached
  rw [evaluate_of_attached hbehind, evaluate_of_attached hbehind, hscript]
  exact ⟨hstep.failed, hstep.agreed, hstep.target⟩

end Evaluation

/-! ## A dog inside a puppy -/

namespace Sample

/-- The script for a bump in the gallery, which ends badly. -/
def galleryBump : Evaluation :=
  ⟨gallery, .typeAware, ⟨"bump_fail()", [⟨0, .call "bump_fail" []⟩]⟩, .empty⟩

end Sample

/-- A puppy knows nothing of bumps. What is bumped, and counts it, is the dog inside; the failure
    is reported for the puppy. -/
theorem Evaluation.bump_of_puppy_is_delegated :
    ∃ up, gallery.base? Gallery.puppy.initial = some up ∧ up.value.ty = Gallery.dog.objects ∧
      Delegates Gallery.puppy.initial up
        (Sample.galleryBump.hopFailure? ⟨0, .call "bump_fail" []⟩ true up.value none)
        (Sample.galleryBump.evaluate Gallery.puppy.initial none)
        (Sample.galleryBump.evaluate up.value none) := by
  have hderived : gallery.WellTyped Gallery.puppy.initial := by decide +kernel
  have hbase : (gallery.classOf Gallery.puppy.initial.ty).base =
      some ⟨"dog", Gallery.dog.objects⟩ := rfl
  refine undeclared_members_are_delegated Sample.galleryBump rfl
    (Schema.wellTyped_iff.1 hderived).here hbase ?_ rfl (fun _ _ => rfl) none ?_
  · intro inner h
    cases h
  · intro cls member h
    cases h

end ObjectPath
