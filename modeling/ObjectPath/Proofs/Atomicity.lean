import ObjectPath.Access
import ObjectPath.Gallery
import ObjectPath.Proofs.Invocation

/-!
# Field access that fails changes nothing

A script of field segments reads or writes the field at its end and nothing else. When it fails,
at whatever hop and for whatever reason, the target is left as it was: what is put back at the
place of each field on the way is what was found there. The same goes for writing at a path.

Results:
* `Run.fields_kept`: a run through fields that fails, or has nothing to assign, keeps its target.
* `Access.of_declared`, `Access.of_follow_cons`: what a path that can be followed leads through.
* `Access.target_assign_of_error`: writing at a path that fails keeps the target.
* `failed_field_access_keeps_target`: both, for whole evaluations.
-/

namespace ObjectPath

/-! ## Scripts -/

namespace Evaluation

variable {E : Evaluation}

/-- A script of fields does not assign behind a call. -/
theorem detachedBy?_of_fields {segments : List PlacedSegment}
    (h : ∀ s ∈ segments, s.segment.isCall = false) : detachedBy? segments = none := by
  unfold detachedBy?
  split
  · rfl
  · split
    · rfl
    · refine List.find?_eq_none.2 fun segment hsegment => ?_
      obtain ⟨s, hs, rfl⟩ := List.mem_map.1 hsegment
      simp [h s (List.dropLast_subset _ hs)]

theorem run_of_fields (h : ∀ s ∈ E.script.segments, s.segment.isCall = false) (target : Value)
    (terminal : Option Value) :
    E.Run E.script.segments target terminal (E.invoked target terminal)
      (E.evaluate target terminal).result (E.evaluate target terminal).target := by
  rcases E.evaluate_cases target terminal with ⟨call, hcall, -⟩ | hrun
  · simp [detachedBy?_of_fields h] at hcall
  · exact hrun

theorem Run.fields_kept {segments : List PlacedSegment} {target after : Value}
    {terminal : Option Value} {calls : List Invocation} {result : Except ScriptError Value}
    (h : E.Run segments target terminal calls result after)
    (hfields : ∀ s ∈ segments, s.segment.isCall = false) :
    (∀ e, result = .error e → after = target ∧ e.OfFields) ∧
      (terminal = none → after = target) := by
  induction h with
  | null | unknownField =>
    refine ⟨fun e he => ⟨rfl, ?_⟩, fun _ => rfl⟩
    cases he
    trivial
  | ended =>
    refine ⟨fun e he => ⟨rfl, ?_⟩, fun _ => rfl⟩
    obtain ⟨cause, -, rfl⟩ := Except.mapError_eq_error_iff.1 he
    trivial
  | @lastField _ _ terminal here inside name hsee _ hspot =>
    have hput := put_field hsee hspot
    rcases E.finish_cases here.value.ty name inside.value terminal with
      ⟨copy, hnone, -, hdone⟩ | ⟨cause, hnone, -, hdone⟩ | ⟨new, stored, hsome, -, hdone⟩ |
      ⟨new, hsome, -, hdone⟩ <;> rw [hdone]
    · exact ⟨by simp, fun _ => hput⟩
    · exact ⟨fun e he => ⟨hput, by cases he; trivial⟩, fun _ => hput⟩
    · exact ⟨by simp, by simp [hsome]⟩
    · exact ⟨fun e he => ⟨hput, by cases he; trivial⟩, fun _ => hput⟩
  | hop _ hsee _ hspot _ ih =>
    obtain ⟨herror, hnone⟩ := ih (List.forall_mem_cons.1 hfields).2
    have hput := put_field hsee hspot
    refine ⟨fun e he => ?_, fun ht => ?_⟩
    · obtain ⟨hafter, hof⟩ := herror e he
      exact ⟨by rw [hafter, hput], hof⟩
    · rw [hnone ht, hput]
  | unbound _ hseg | unknownMethod _ hseg | faulted _ hseg | returned _ hseg | continued _ _ hseg =>
    exact absurd hfields (not_fields_of_call hseg _)

end Evaluation

/-! ## Paths -/

namespace Access

variable {S : Schema}

/-- A declared field is a field of the class and of the value behind the optional layers. -/
theorem of_declared {script name : String} {v : Value} {field : Spot}
    (h : declared S script v name = .ok field) :
    ∃ here inside member, v.seeThrough = .ok here ∧
      (S.classOf here.value.ty).field? name = some member ∧
      S.field? here.value name = some inside ∧ field = here.within inside := by
  unfold declared at h
  split at h
  · cases h
  · next here hsee =>
    simp only at h
    split at h
    · next member inside hclass hfield =>
      cases h
      exact ⟨here, inside, member, hsee, hclass, hfield, rfl⟩
    · cases h

theorem of_follow_cons {script name : String} {names : List String} {v : Value} {spot : Spot}
    (h : follow S script (name :: names) v = .ok spot) :
    ∃ field rest, declared S script v name = .ok field ∧
      follow S script names field.value = .ok rest ∧ spot = field.within rest := by
  rw [follow] at h
  cases hfield : declared S script v name with
  | error e => simp [hfield, bind, Except.bind] at h
  | ok field =>
    cases hrest : follow S script names field.value with
    | error e => simp [hfield, hrest, bind, Except.bind] at h
    | ok rest =>
      simp only [hfield, hrest, bind, Except.bind, Except.ok.injEq] at h
      exact ⟨field, rest, rfl, hrest, h.symm⟩

theorem in_of_declared {script name : String} {v : Value} {field : Spot}
    (h : declared S script v name = .ok field) : field.In v := by
  obtain ⟨here, inside, -, hsee, -, hfield, rfl⟩ := of_declared h
  exact .within (Value.seeThrough_in hsee) (Schema.in_of_field? hfield)

theorem in_of_follow {script : String} {names : List String} {v : Value} {spot : Spot}
    (h : follow S script names v = .ok spot) : spot.In v := by
  induction names generalizing v spot with
  | nil =>
    cases h
    exact .whole v
  | cons name names ih =>
    obtain ⟨field, rest, hfield, hrest, rfl⟩ := of_follow_cons h
    exact .within (in_of_declared hfield) (ih hrest)

theorem fill_of_error {script name : String} {owner : Ty} {field new : Value} {e : ScriptError}
    (h : (fill script owner name field new).1 = .error e) :
    (fill script owner name field new).2 = field := by
  unfold fill at h ⊢
  split <;> simp_all

theorem target_write_of_error {script name : String} {target new : Value} {e : ScriptError}
    (h : (write S script target name new).result = .error e) :
    (write S script target name new).target = target := by
  unfold write at h ⊢
  split
  · rfl
  · next field hfield =>
    simp only [hfield] at h
    simp only [fill_of_error h]
    exact Value.put_at? (in_of_declared hfield)

theorem target_assign_of_error {target new : Value} {path : String} {e : ScriptError}
    (h : (assign S target path new).result = .error e) :
    (assign S target path new).target = target := by
  unfold assign at h ⊢
  simp only at h ⊢
  split
  · rfl
  · next parent hparent =>
    simp only [hparent] at h
    simp only [target_write_of_error h]
    exact Value.put_at? (in_of_follow hparent)

theorem target_assignField_of_error {target new : Value} {name : String} {e : ScriptError}
    (h : (assignField S target name new).result = .error e) :
    (assignField S target name new).target = target := by
  unfold assignField at h ⊢
  split
  · rfl
  · next hname =>
    rw [hname] at h
    exact target_write_of_error h

end Access

/-! ## Both -/

/-- Evaluating a script of field segments that fails leaves the whole target as it was, and so
    does one with nothing to assign. Writing at a path, or in a field, that fails leaves the
    target as it was. -/
theorem failed_field_access_keeps_target (S : Schema) (target : Value) :
    (∀ E : Evaluation, (∀ s ∈ E.script.segments, s.segment.isCall = false) →
      (∀ terminal e, (E.evaluate target terminal).result = .error e →
        (E.evaluate target terminal).target = target ∧ e.OfFields) ∧
      (E.evaluate target none).target = target) ∧
    (∀ path new e, (Access.assign S target path new).result = .error e →
      (Access.assign S target path new).target = target) ∧
    ∀ name new e, (Access.assignField S target name new).result = .error e →
      (Access.assignField S target name new).target = target := by
  refine ⟨fun E hfields => ?_, fun path new e he => ?_, fun name new e he => ?_⟩
  · have hrun (terminal : Option Value) : E.Run E.script.segments target terminal
        (E.invoked target terminal) (E.evaluate target terminal).result
        (E.evaluate target terminal).target := by
      rcases E.evaluate_cases target terminal with ⟨call, hcall, -⟩ | hrun
      · simp [Evaluation.detachedBy?_of_fields hfields] at hcall
      · exact hrun
    refine ⟨fun terminal e he => ?_, ?_⟩
    · exact ((hrun terminal).fields_kept hfields).1 e he
    · exact ((hrun none).fields_kept hfields).2 rfl
  · exact Access.target_assign_of_error he
  · exact Access.target_assignField_of_error he

/-- A runt inherits an owner from two levels up, but has none to go on from, and a dog's count of
    bumps is not a text. -/
theorem failed_field_access_keeps_gallery_dogs :
    (Evaluation.evaluate
        ⟨gallery, .typeAware, ⟨"owner.name", [⟨0, .field "owner"⟩, ⟨6, .field "name"⟩]⟩, .empty⟩
        Gallery.runt.initial (some .unit)).target = Gallery.runt.initial ∧
      (Access.assign gallery Gallery.dog.initial "count" (.string "")).target =
        Gallery.dog.initial := by
  obtain ⟨hscripts, -, -⟩ := failed_field_access_keeps_target gallery Gallery.runt.initial
  obtain ⟨-, hpaths, -⟩ := failed_field_access_keeps_target gallery Gallery.dog.initial
  refine ⟨?_, ?_⟩
  · exact ((hscripts _ (by decide)).1 _ (.nullTarget "core::option::Option<zoo::Person>"
      "owner.name") (by rfl)).1
  · exact hpaths _ _ (.typeMismatch "zoo::Dog" "count" "i32" "alloc::string::String" "count")
      (by rfl)

end ObjectPath
