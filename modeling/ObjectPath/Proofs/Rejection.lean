import ObjectPath.Gallery
import ObjectPath.Proofs.Invocation
import ObjectPath.Reflector

/-!
# Rejected scripts

A script is invalid if it cannot be read, if its arguments do not match their declared types in
number, or if the arguments of one of its calls cannot be bound. The first two are found before
anything is evaluated. The third is found when the call is reached, and by then the calls in
front of it have been made.

Results:
* `Run.of_invalid`: a run is rejected at a call that cannot be bound, after all calls in front of
  it were made.
* `invalid_script_touches_nothing_iff`: a rejected script has touched nothing exactly if it was
  rejected as a whole or at its first call.
* `invalid_script_after_birthday`: a rejected script that has changed its target.
-/

namespace ObjectPath

namespace Evaluation

variable {E : Evaluation}

/-- The arguments of the first call of the script cannot be bound. -/
def FirstCallUnbound (E : Evaluation) : Prop :=
  ∃ first name params reason, E.script.segments.find? (·.segment.isCall) = some first ∧
    first.segment = .call name params ∧ E.args.bind E.schema params = .error reason

/-- A call is rejected after all calls in front of it were bound and made. -/
theorem Run.of_invalid {segments : List PlacedSegment} {target after : Value}
    {terminal : Option Value} {calls : List Invocation} {result : Except ScriptError Value}
    (h : E.Run segments target terminal calls result after) {cls script : String}
    {reason : Reason} (hr : result = .error (.invalidScript cls script reason)) :
    ∃ before refused rest name params, segments = before ++ refused :: rest ∧
      refused.segment = .call name params ∧ E.args.bind E.schema params = .error reason ∧
      (∀ s ∈ before, ∀ n ps, s.segment = .call n ps →
        ∃ bound, E.args.bind E.schema ps = .ok bound) ∧
      calls.length = before.countP (·.segment.isCall) ∧ (calls = [] → after = target) := by
  induction h with
  | null | unknownField | unknownMethod | faulted | returned => simp [unknown] at hr
  | ended => simp at hr
  | lastField => exact (ofFields_of_finish hr).elim
  | @unbound first rest _ _ _ name params _ _ hseg hbind =>
    simp only [Except.error.injEq, ScriptError.invalidScript.injEq] at hr
    obtain ⟨-, -, rfl⟩ := hr
    exact ⟨[], first, rest, name, params, rfl, hseg, hbind, by simp, rfl, fun _ => rfl⟩
  | @hop first _ _ _ _ _ _ _ _ _ _ hsee hseg hspot _ ih =>
    obtain ⟨before, refused, rest, n, ps, rfl, hrefused, hbind, hbound, hlen, hafter⟩ := ih hr
    refine ⟨first :: before, refused, rest, n, ps, rfl, hrefused, hbind, ?_, ?_, fun hnone => ?_⟩
    · refine List.forall_mem_cons.2 ⟨fun _ _ hcall => ?_, hbound⟩
      simp [hseg] at hcall
    · simp [hlen, hseg, Segment.isCall]
    · rw [hafter hnone, put_field hsee hspot]
  | @continued first _ _ _ _ _ _ bound _ _ _ _ _ _ _ hseg hbind _ _ _ ih =>
    obtain ⟨before, refused, rest, n, ps, rfl, hrefused, hbind', hbound, hlen, -⟩ := ih hr
    refine ⟨first :: before, refused, rest, n, ps, rfl, hrefused, hbind', ?_, ?_, by simp⟩
    · refine List.forall_mem_cons.2 ⟨fun _ _ hcall => ?_, hbound⟩
      rw [hseg, Segment.call.injEq] at hcall
      obtain ⟨-, rfl⟩ := hcall
      exact ⟨bound, hbind⟩
    · simp [hlen, hseg, Segment.isCall]

/-- Whether a rejected evaluation has touched anything depends on its first call alone. -/
theorem untouched_iff_of_invalid {target : Value} {terminal : Option Value} {cls script : String}
    {reason : Reason}
    (h : (E.evaluate target terminal).result = .error (.invalidScript cls script reason)) :
    (E.invoked target terminal = [] ∧ (E.evaluate target terminal).target = target) ↔
      E.FirstCallUnbound := by
  rcases E.evaluate_cases target terminal with ⟨_, -, -, hresult, -⟩ | hrun
  · simp [hresult] at h
  obtain ⟨before, refused, rest, name, params, hsplit, hrefused, hbind, hbound, hlen, hafter⟩ :=
    hrun.of_invalid h
  have hcall : refused.segment.isCall = true := by rw [hrefused]; rfl
  constructor
  · rintro ⟨hnone, -⟩
    have hfields : before.countP (·.segment.isCall) = 0 := by rw [← hlen, hnone]; rfl
    refine ⟨refused, name, params, reason, ?_, hrefused, hbind⟩
    rw [hsplit, List.find?_append, List.find?_eq_none.2 (List.countP_eq_zero.1 hfields)]
    simp [hcall]
  · rintro ⟨first, n, ps, reason', hfirst, hseg, hunbound⟩
    have hfields : before.find? (·.segment.isCall) = none := by
      cases hfind : before.find? (·.segment.isCall) with
      | none => rfl
      | some s =>
        -- a call in front of the refused one would be the first call, and was bound
        rw [hsplit, List.find?_append, hfind, Option.some_or, Option.some.injEq] at hfirst
        subst hfirst
        obtain ⟨bound, hok⟩ := hbound s (List.mem_of_find?_eq_some hfind) n ps hseg
        rw [hunbound] at hok
        cases hok
    have hnone : E.invoked target terminal = [] := by
      rw [← List.length_eq_zero_iff, hlen, List.countP_eq_zero]
      exact List.find?_eq_none.1 hfields
    exact ⟨hnone, hafter hnone⟩

end Evaluation

namespace Reflector

/-- The invocations that a script leads to: none if it cannot be read. -/
def invoked (R : Reflector) (target : Value) (script : String) (args : Arguments)
    (terminal : Option Value) : List Invocation :=
  match R.compile target.ty.path script with
  | .error _ => []
  | .ok compiled => (R.evaluation compiled args).invoked target terminal

/-- The script cannot be read, or the arguments of its first call cannot be bound. -/
def RefusedAtOnce (R : Reflector) (target : Value) (script : String) (args : Arguments) : Prop :=
  ∀ compiled, R.compile target.ty.path script = .ok compiled →
    (R.evaluation compiled args).FirstCallUnbound

theorem untouched_iff_of_invalid {R : Reflector} {target : Value} {script : String}
    {args : Arguments} {terminal : Option Value} {cls quoted : String} {reason : Reason}
    (h : (R.run target script args terminal).result =
      .error (.invalidScript cls quoted reason)) :
    (R.invoked target script args terminal = [] ∧
      (R.run target script args terminal).target = target) ↔
      R.RefusedAtOnce target script args := by
  unfold run at h ⊢
  unfold invoked RefusedAtOnce
  cases hcompile : R.compile target.ty.path script with
  | error e => simp
  | ok compiled =>
    simp only [hcompile] at h
    simpa using Evaluation.untouched_iff_of_invalid h

end Reflector

/-! ## All entry points -/

/-- When a script is rejected as invalid, no method has been invoked and the target is as it was
    exactly if the script or its arguments were refused as a whole, or the arguments of its first
    call could not be bound. This goes for the evaluator and for scripts given as texts, with
    arguments of inferred and of declared types. -/
theorem invalid_script_touches_nothing_iff (target : Value) (terminal : Option Value)
    (cls quoted : String) (reason : Reason) :
    (∀ E : Evaluation,
      (E.evaluate target terminal).result = .error (.invalidScript cls quoted reason) →
        ((E.invoked target terminal = [] ∧ (E.evaluate target terminal).target = target) ↔
          E.FirstCallUnbound)) ∧
    (∀ (R : Reflector) script values,
      (R.reflect target script values terminal).result =
          .error (.invalidScript cls quoted reason) →
        ((R.invoked target script (.ofValues values) terminal = [] ∧
            (R.reflect target script values terminal).target = target) ↔
          R.RefusedAtOnce target script (.ofValues values))) ∧
    ∀ (R : Reflector) script values types,
      (R.reflectTyped target script values types terminal).result =
          .error (.invalidScript cls quoted reason) →
        (((∀ args, Arguments.typed values types = .ok args →
              R.invoked target script args terminal = []) ∧
            (R.reflectTyped target script values types terminal).target = target) ↔
          ∀ args, Arguments.typed values types = .ok args →
            R.RefusedAtOnce target script args) := by
  refine ⟨fun E h => Evaluation.untouched_iff_of_invalid h,
    fun R script values h => Reflector.untouched_iff_of_invalid h,
    fun R script values types h => ?_⟩
  unfold Reflector.reflectTyped at h ⊢
  cases htyped : Arguments.typed values types with
  | error e => simp
  | ok args =>
    simp only [htyped] at h
    simpa using Reflector.untouched_iff_of_invalid h

/-- Scripts for the sample classes, with the standard options. -/
def galleryReflector : Reflector := ⟨gallery, .standard, none⟩

theorem birthday_rejected :
    (galleryReflector.reflect Gallery.animal.initial "birthday().to_string(%1)" [] none).result =
      .error (.invalidScript "u32" "birthday().to_string(%1)" (.placeholderOutOfRange 1 0)) := by
  decide +kernel

theorem birthday_touched :
    (galleryReflector.reflect Gallery.animal.initial "birthday().to_string(%1)" [] none).target ≠
      Gallery.animal.initial := by
  decide +kernel

/-- An animal is not renamed if the new name is not supplied, but it has its birthday before the
    script fails to say how to print its age. -/
theorem refused_at_once_in_gallery :
    galleryReflector.RefusedAtOnce Gallery.animal.initial "rename(%1).len()" (.ofValues []) ∧
      ¬ galleryReflector.RefusedAtOnce Gallery.animal.initial "birthday().to_string(%1)"
        (.ofValues []) := by
  constructor
  · obtain ⟨-, htexts, -⟩ := invalid_script_touches_nothing_iff Gallery.animal.initial none
      "zoo::Animal" "rename(%1).len()" (.placeholderOutOfRange 1 0)
    have hresult :
        (galleryReflector.reflect Gallery.animal.initial "rename(%1).len()" [] none).result =
          .error (.invalidScript "zoo::Animal" "rename(%1).len()"
            (.placeholderOutOfRange 1 0)) := by
      decide +kernel
    exact (htexts _ _ _ hresult).1 ⟨List.isEmpty_iff.1 (by decide +kernel), by decide +kernel⟩
  · obtain ⟨-, htexts, -⟩ := invalid_script_touches_nothing_iff Gallery.animal.initial none
      "u32" "birthday().to_string(%1)" (.placeholderOutOfRange 1 0)
    intro hrefused
    exact birthday_touched ((htexts _ _ _ birthday_rejected).2 hrefused).2

/-- Not every rejected script has touched nothing. -/
theorem invalid_script_after_birthday :
    ¬ ∀ (R : Reflector) (target : Value) (script : String) values terminal cls quoted reason,
      (R.reflect target script values terminal).result =
          .error (.invalidScript cls quoted reason) →
        R.invoked target script (.ofValues values) terminal = [] ∧
          (R.reflect target script values terminal).target = target := by
  intro h
  exact birthday_touched (h _ _ _ _ _ _ _ _ birthday_rejected).2

end ObjectPath
