import ObjectPath.Proofs.Atomicity
import ObjectPath.Proofs.Conversion

/-!
# Assignments are read back

A field found in a value lies at a place that depends on the classes of the value and of its
base objects, and these stay the same when the field is overwritten. So the same script finds
the field again, and reads what was assigned, through any number of fields, optional layers and
base objects.

Results:
* `fieldSpot?_put`: an overwritten field is found where it was.
* `Run.read_back`: a script that assigned through fields reads what it assigned.
* `assignment_is_read_back`: no assignment is lost, and one that would be is rejected at once.
-/

namespace ObjectPath

/-! ## Overwriting a slot -/

namespace Value

/-- Overwriting something in a slot leaves an object of the same class, or changes nothing. -/
theorem put_slot_cases (v : Value) (i : Nat) (rest : Place) (new : Value) :
    v.put (.slot i :: rest) new = v ∨
      ∃ id slots changed, v = .object id slots ∧
        v.put (.slot i :: rest) new = .object id changed := by
  cases hchild : v.child? (.slot i) with
  | none => exact .inl (by simp [put, hchild])
  | some part =>
    cases v with
    | object id slots =>
      exact .inr ⟨id, slots, slots.set i (part.put rest new), rfl, by simp [put, hchild, setChild]⟩
    | _ => simp [child?] at hchild

theorem ty_put_slot (v : Value) (i : Nat) (rest : Place) (new : Value) :
    (v.put (.slot i :: rest) new).ty = v.ty := by
  rcases v.put_slot_cases i rest new with h | ⟨id, slots, changed, rfl, h⟩ <;> rw [h]
  rfl

theorem seeThrough_put_slot {v : Value} (hv : v.seeThrough = .ok (.whole v)) (i : Nat)
    (rest : Place) (new : Value) :
    (v.put (.slot i :: rest) new).seeThrough = .ok (.whole (v.put (.slot i :: rest) new)) := by
  rcases v.put_slot_cases i rest new with h | ⟨id, slots, changed, rfl, h⟩ <;> rw [h]
  · exact hv
  · rfl

/-- What optional layers are seen through to has no optional layers itself. -/
theorem seeThrough_of_seeThrough {v : Value} {here : Spot} (h : v.seeThrough = .ok here) :
    here.value.seeThrough = .ok (.whole here.value) := by
  fun_induction seeThrough v generalizing here with
  | case1 => simp at h
  | case2 payload ih =>
    obtain ⟨inner, hinner, rfl⟩ := Except.map_eq_ok_iff.1 h
    show inner.value.seeThrough = .ok (.whole inner.value)
    exact ih hinner
  | case3 v habsent hpresent =>
    cases h
    exact seeThrough.eq_3 v habsent hpresent

theorem seeThrough_put {v w : Value} {here : Spot} (h : v.seeThrough = .ok here)
    (hw : w.seeThrough = .ok (.whole w)) :
    (v.put here.place w).seeThrough = .ok ⟨here.place, w⟩ := by
  fun_induction seeThrough v generalizing here with
  | case1 => simp at h
  | case2 payload ih =>
    obtain ⟨inner, hinner, rfl⟩ := Except.map_eq_ok_iff.1 h
    have hput : (present payload).put (.payload :: inner.place) w =
        .present (payload.put inner.place w) := rfl
    show ((present payload).put (.payload :: inner.place) w).seeThrough = _
    rw [hput, seeThrough, ih hinner]
    rfl
  | case3 v =>
    cases h
    exact hw

end Value

/-! ## What is found again after it was overwritten -/

namespace Schema

variable {S : Schema}

theorem structOf?_put_slot (v : Value) (i : Nat) (rest : Place) (new : Value) :
    S.structOf? (v.put (.slot i :: rest) new) = S.structOf? v := by
  rcases v.put_slot_cases i rest new with h | ⟨id, slots, changed, rfl, h⟩ <;> rw [h]
  rfl

theorem place_of_slotSpot? {v : Value} {entry : Slot × Nat} {spot : Spot}
    (h : slotSpot? v entry = some spot) : spot.place = [.slot entry.2] := by
  obtain ⟨part, -, rfl⟩ := Option.map_eq_some_iff.1 h
  rfl

theorem slotSpot?_put {v : Value} {entry : Slot × Nat} {spot : Spot}
    (h : slotSpot? v entry = some spot) (new : Value) :
    slotSpot? (v.put spot.place new) entry = some ⟨spot.place, new⟩ := by
  have hat : (v.put spot.place new).at? spot.place = some new :=
    Value.at?_put (in_of_slotSpot? h) new
  rw [place_of_slotSpot? h] at hat ⊢
  simpa [slotSpot?, Value.at?] using hat

theorem field?_put {v : Value} {name : String} {spot : Spot} (h : S.field? v name = some spot)
    (new : Value) : S.field? (v.put spot.place new) name = some ⟨spot.place, new⟩ := by
  simp only [field?, Option.bind_eq_bind, Option.bind_eq_some_iff] at h ⊢
  obtain ⟨c, hc, entry, hentry, hspot⟩ := h
  refine ⟨c, ?_, entry, hentry, slotSpot?_put hspot new⟩
  rw [place_of_slotSpot? hspot, structOf?_put_slot, hc]

theorem base?_put {v : Value} {up : Spot} (h : S.base? v = some up) (new : Value) :
    S.base? (v.put up.place new) = some ⟨up.place, new⟩ := by
  simp only [base?, Option.bind_eq_bind, Option.bind_eq_some_iff] at h ⊢
  obtain ⟨c, hc, entry, hentry, hspot⟩ := h
  refine ⟨c, ?_, entry, hentry, slotSpot?_put hspot new⟩
  rw [place_of_slotSpot? hspot, structOf?_put_slot, hc]

theorem ascend?_put {v : Value} {depth : Nat} {up : Spot} (h : S.ascend? v depth = some up)
    (new : Value) : S.ascend? (v.put up.place new) depth = some ⟨up.place, new⟩ := by
  induction depth generalizing v up with
  | zero =>
    simp only [ascend?, Option.some.injEq] at h
    subst h
    rfl
  | succ depth ih =>
    simp only [ascend?, Option.bind_eq_bind, Option.bind_eq_some_iff, Option.some.injEq] at h ⊢
    obtain ⟨first, hfirst, rest, hrest, rfl⟩ := h
    rw [(in_of_base? hfirst).put_within rest new]
    exact ⟨_, base?_put hfirst _, _, ih hrest, rfl⟩

theorem place_of_field? {v : Value} {name : String} {spot : Spot}
    (h : S.field? v name = some spot) : ∃ i, spot.place = [.slot i] := by
  simp only [field?, Option.bind_eq_bind, Option.bind_eq_some_iff] at h
  obtain ⟨c, -, entry, -, hspot⟩ := h
  exact ⟨entry.2, place_of_slotSpot? hspot⟩

theorem place_of_ascend? {v : Value} {depth : Nat} {up : Spot} (h : S.ascend? v depth = some up) :
    up.place = [] ∨ ∃ i rest, up.place = .slot i :: rest := by
  cases depth with
  | zero =>
    simp only [ascend?, Option.some.injEq] at h
    subst h
    exact .inl rfl
  | succ depth =>
    simp only [ascend?, base?, Option.bind_eq_bind, Option.bind_eq_some_iff,
      Option.some.injEq] at h
    obtain ⟨first, ⟨c, -, entry, -, hspot⟩, rest, -, rfl⟩ := h
    exact .inr ⟨entry.2, rest.place, by simp [Spot.place_within, place_of_slotSpot? hspot]⟩

end Schema

namespace Evaluation

variable {E : Evaluation}

theorem place_of_fieldSpot? {v : Value} {name : String} {inside : Spot}
    (h : E.fieldSpot? v name = some inside) : ∃ i rest, inside.place = .slot i :: rest := by
  simp only [fieldSpot?, Option.bind_eq_bind, Option.bind_eq_some_iff, Option.some.injEq] at h
  obtain ⟨found, -, owner, howner, field, hfield, rfl⟩ := h
  obtain ⟨j, hj⟩ := Schema.place_of_field? hfield
  rcases Schema.place_of_ascend? howner with hi | ⟨i, rest, hi⟩
  · exact ⟨j, [], by simp [Spot.place_within, hi, hj]⟩
  · exact ⟨i, rest ++ [.slot j], by simp [Spot.place_within, hi, hj]⟩

theorem ty_put_fieldSpot? {v : Value} {name : String} {inside : Spot}
    (h : E.fieldSpot? v name = some inside) (new : Value) : (v.put inside.place new).ty = v.ty := by
  obtain ⟨i, rest, hplace⟩ := place_of_fieldSpot? h
  rw [hplace, Value.ty_put_slot]

theorem fieldSpot?_put {v : Value} {name : String} {inside : Spot}
    (h : E.fieldSpot? v name = some inside) (new : Value) :
    E.fieldSpot? (v.put inside.place new) name = some ⟨inside.place, new⟩ := by
  have hty := ty_put_fieldSpot? h new
  simp only [fieldSpot?, Option.bind_eq_bind, Option.bind_eq_some_iff, Option.some.injEq, hty]
    at h ⊢
  obtain ⟨found, hfound, owner, howner, field, hfield, rfl⟩ := h
  rw [(Schema.in_of_ascend? howner).put_within field new]
  exact ⟨found, hfound, _, Schema.ascend?_put howner _, _, Schema.field?_put hfield new, rfl⟩

/-- The layers around an object stay when one of its fields is overwritten. -/
theorem seeThrough_put_field {target : Value} {here inside : Spot} {name : String}
    (hsee : target.seeThrough = .ok here) (hspot : E.fieldSpot? here.value name = some inside)
    (new : Value) :
    (target.put (here.within inside).place new).seeThrough =
      .ok ⟨here.place, here.value.put inside.place new⟩ := by
  obtain ⟨i, rest, hplace⟩ := place_of_fieldSpot? hspot
  have hwhole : (here.value.put inside.place new).seeThrough =
      .ok (.whole (here.value.put inside.place new)) := by
    rw [hplace]
    exact Value.seeThrough_put_slot (Value.seeThrough_of_seeThrough hsee) i rest new
  rw [(Value.seeThrough_in hsee).put_within inside new]
  exact Value.seeThrough_put hsee hwhole

/-- After a field was overwritten, it is reached again through the same layers and base objects,
    from a value of the same type. -/
theorem reach_again {target : Value} {here inside : Spot} {name : String}
    (hsee : target.seeThrough = .ok here) (hspot : E.fieldSpot? here.value name = some inside)
    (new : Value) :
    ∃ there, (target.put (here.within inside).place new).seeThrough = .ok there ∧
      there.value.ty = here.value.ty ∧
      E.fieldSpot? there.value name = some ⟨inside.place, new⟩ :=
  ⟨⟨here.place, here.value.put inside.place new⟩, seeThrough_put_field hsee hspot new,
    ty_put_fieldSpot? hspot new, fieldSpot?_put hspot new⟩

/-! ## Reading back -/

theorem Run.read_back {segments : List PlacedSegment} {target after new old : Value}
    {terminal : Option Value} {calls : List Invocation} {result : Except ScriptError Value}
    (h : E.Run segments target terminal calls result after)
    (hfields : ∀ s ∈ segments, s.segment.isCall = false) {last : PlacedSegment}
    (hlast : segments.getLast? = some last) (hnew : terminal = some new)
    (hold : result = .ok old) :
    ∃ stored cls, Converts old.ty new stored ∧
      (E.step segments after none).result =
        (E.schema.clone stored).mapError (.notCloneable cls last.segment.name E.source) := by
  induction h with
  | null | unknownField => simp at hold
  | ended => simp at hlast
  | @lastField first _ terminal here inside name hsee hseg hspot =>
    obtain rfl : first = last := by simpa using hlast
    rcases E.finish_cases here.value.ty name inside.value terminal with
      ⟨_, hnone, -, -⟩ | ⟨_, hnone, -, -⟩ | ⟨new', stored, hsome, hstored, hdone⟩ |
      ⟨_, _, -, hdone⟩
    · simp [hnone] at hnew
    · simp [hnone] at hnew
    · obtain rfl : new' = new := by simpa [hsome] using hnew
      obtain rfl : inside.value = old := by simpa [hdone] using hold
      obtain ⟨there, hsee', hty, hspot'⟩ := reach_again hsee hspot stored
      refine ⟨stored, here.value.ty.path, .of_convert? hstored, ?_⟩
      rw [hdone]
      simp [step, hsee', hseg, hspot', hty, finish, Segment.name]
    · simp [hdone] at hold
  | @hop first rest _ after _ here inside name _ _ hrest hsee hseg hspot _ ih =>
    have hlast' : rest.getLast? = some last := by
      rwa [List.getLast?_cons_of_ne_nil hrest] at hlast
    obtain ⟨stored, cls, hstored, hread⟩ :=
      ih (List.forall_mem_cons.1 hfields).2 hlast' hnew hold
    obtain ⟨there, hsee', -, hspot'⟩ := reach_again hsee hspot after
    refine ⟨stored, cls, hstored, ?_⟩
    simp [step, hsee', hseg, hspot', hrest, hread]
  | unbound _ hseg | unknownMethod _ hseg | faulted _ hseg | returned _ hseg | continued _ _ hseg =>
    exact absurd hfields (not_fields_of_call hseg _)

/-- A script that ends in a field assigns behind its first call, if it has one. -/
theorem detachedBy?_of_last {segments : List PlacedSegment} {last : PlacedSegment}
    (hlast : segments.getLast? = some last) (hfield : last.segment.isCall = false) :
    detachedBy? segments = (segments.map (·.segment)).find? (·.isCall) := by
  have hsplit : segments.dropLast ++ [last] = segments :=
    List.dropLast_append_getLast? last hlast
  have hfind : (segments.map (·.segment)).find? (·.isCall) =
      (segments.dropLast.map (·.segment)).find? (·.isCall) := by
    rw [← hsplit, List.map_append, List.find?_append]
    simp [hfield]
  rw [hfind]
  simp [detachedBy?, hlast, hfield]

/-- Assigning to the field at the end of a script, and evaluating the script again with nothing to
    assign, gives a clone of the value assigned, as a value of the field's type, or the error that
    it cannot be cloned. If there is a call in front of the field, the assignment is rejected in
    the name of the first one: no segment is reached, no method is invoked, and the target is as
    it was. -/
theorem assignment_is_read_back (E : Evaluation) (target new : Value) {last : PlacedSegment}
    (hlast : E.script.segments.getLast? = some last) (hfield : last.segment.isCall = false) :
    (∀ old, (E.evaluate target (some new)).result = .ok old →
      ∃ stored cls, Converts old.ty new stored ∧
        (E.evaluate (E.evaluate target (some new)).target none).result =
          (E.schema.clone stored).mapError (.notCloneable cls last.segment.name E.source)) ∧
    ∀ call, (E.script.segments.map (·.segment)).find? (·.isCall) = some call →
      E.evaluate target (some new) =
        ⟨.error (.detachedAssignment target.ty.path call.name E.source), target,
          [.started E.source target.ty.path E.args.size true]⟩ ∧
      E.invoked target (some new) = [] := by
  have hrejected : ∀ call, (E.script.segments.map (·.segment)).find? (·.isCall) = some call →
      E.evaluate target (some new) =
        ⟨.error (.detachedAssignment target.ty.path call.name E.source), target,
          [.started E.source target.ty.path E.args.size true]⟩ ∧
      E.invoked target (some new) = [] := by
    intro call hcall
    rw [← detachedBy?_of_last hlast hfield] at hcall
    exact ⟨by simp [evaluate, hcall], by simp [invoked, hcall]⟩
  refine ⟨fun old hold => ?_, hrejected⟩
  have hnone : (E.script.segments.map (·.segment)).find? (·.isCall) = none := by
    cases hfind : (E.script.segments.map (·.segment)).find? (·.isCall) with
    | none => rfl
    | some call => simp [(hrejected call hfind).1] at hold
  have hfields : ∀ s ∈ E.script.segments, s.segment.isCall = false := by
    intro s hs
    simpa using List.find?_eq_none.1 hnone s.segment (List.mem_map_of_mem hs)
  rcases E.evaluate_cases target (some new) with ⟨_, -, -, hresult, -⟩ | hrun
  · simp [hresult] at hold
  · obtain ⟨stored, cls, hstored, hread⟩ := hrun.read_back hfields hlast rfl hold
    exact ⟨stored, cls, hstored, hread⟩

/-- The script for the owner of an animal in the gallery. -/
def galleryOwner : Evaluation := ⟨gallery, .typeAware, ⟨"owner", [⟨0, .field "owner"⟩]⟩, .empty⟩

/-- A runt inherits its owner from two levels up, and a person becomes a present owner. -/
theorem inherited_owner_is_read_back :
    ∃ stored cls, Converts (.optional Gallery.person.objects) Gallery.person.initial stored ∧
      (galleryOwner.evaluate
          (galleryOwner.evaluate Gallery.runt.initial (some Gallery.person.initial)).target
          none).result =
        (gallery.clone stored).mapError (.notCloneable cls "owner" "owner") := by
  have hread := (assignment_is_read_back galleryOwner Gallery.runt.initial Gallery.person.initial
    (rfl : galleryOwner.script.segments.getLast? = some ⟨0, .field "owner"⟩) rfl).1
  exact hread (.absent Gallery.person.objects) (by rfl)

end Evaluation

end ObjectPath
