import ObjectPath.Gallery
import ObjectPath.Proofs.Assignment
import ObjectPath.Proofs.Quotation

/-!
# Assignments do not interfere

A slot has one name and one role, so the slots of two fields, or of a field and the base object,
are different slots. Fields of different names, or of one name at different levels of a chain of
base objects, therefore lie apart, and writing one leaves the others alone. Two scripts whose
names part ways reach the same value as long as they agree, and different fields of it then.

Results:
* `fieldUp?_put_of_ne`: a field that is overwritten is the only one that changes, at any level.
* `Run.result_apart`: what a script reads is not changed by an assignment elsewhere.
* `assignment_leaves_others`: the same for whole evaluations, and for fields hidden by others of
  the same name.
-/

namespace ObjectPath

/-! ## Different slots -/

namespace Schema

variable {S : Schema}

theorem slotSpot?_put_of_ne {v : Value} {entry : Slot × Nat} {i : Nat} (hne : i ≠ entry.2)
    (rest : Place) (new : Value) :
    slotSpot? (v.put (.slot i :: rest) new) entry = slotSpot? v entry := by
  have hhop : Hop.slot i ≠ .slot entry.2 := by simpa using hne
  cases hpart : v.child? (.slot i) with
  | none => simp [Value.put, hpart]
  | some part => simp [Value.put, hpart, slotSpot?, Value.child?_setChild_of_ne hhop]

/-- One position is one slot, with one name and one role. -/
theorem slot_eq_of_position_eq {c : ClassDecl} {role other : Role} {entry entry' : Slot × Nat}
    (h : entry ∈ c.slotsOf role) (h' : entry' ∈ c.slotsOf other) (heq : entry.2 = entry'.2) :
    entry.1 = entry'.1 ∧ role = other := by
  obtain ⟨hslot, hrole⟩ := mem_slotsOf.1 h
  obtain ⟨hslot', hrole'⟩ := mem_slotsOf.1 h'
  have hsame : entry.1 = entry'.1 := by
    rw [heq, hslot', Option.some.injEq] at hslot
    exact hslot.symm
  exact ⟨hsame, by rw [← hrole, ← hrole', hsame]⟩

/-- A field is found in a slot of the object. -/
theorem field?_cases {v : Value} {name : String} {spot : Spot} (h : S.field? v name = some spot) :
    ∃ c entry, S.structOf? v = some c ∧ entry ∈ c.slotsOf .declared ∧ entry.1.name = name ∧
      spot.place = [.slot entry.2] := by
  simp only [field?, Option.bind_eq_bind, Option.bind_eq_some_iff] at h
  obtain ⟨c, hc, entry, hentry, hspot⟩ := h
  exact ⟨c, entry, hc, List.mem_of_find?_eq_some hentry, by simpa using List.find?_some hentry,
    place_of_slotSpot? hspot⟩

/-- The base object is found in a slot of the object. -/
theorem base?_cases {v : Value} {up : Spot} (h : S.base? v = some up) :
    ∃ c entry, S.structOf? v = some c ∧ entry ∈ c.slotsOf .base ∧
      up.place = [.slot entry.2] := by
  simp only [base?, Option.bind_eq_bind, Option.bind_eq_some_iff] at h
  obtain ⟨c, hc, entry, hentry, hspot⟩ := h
  exact ⟨c, entry, hc, List.mem_of_mem_head? hentry, place_of_slotSpot? hspot⟩

/-- Overwriting a slot changes a field only if the slot is the field's. -/
theorem field?_put_slot {v : Value} {name : String} {i : Nat}
    (hne : ∀ c entry, S.structOf? v = some c → entry ∈ c.slotsOf .declared →
      entry.1.name = name → i ≠ entry.2) (new : Value) :
    S.field? (v.put [.slot i] new) name = S.field? v name := by
  unfold field?
  rw [structOf?_put_slot]
  cases hc : S.structOf? v with
  | none => rfl
  | some c =>
    cases hentry : c.declaredSlots.find? fun entry => entry.1.name == name with
    | none => simp [hentry]
    | some entry =>
      have hname : entry.1.name = name := by simpa using List.find?_some hentry
      simp [hentry,
        slotSpot?_put_of_ne (hne c entry hc (List.mem_of_find?_eq_some hentry) hname)]

/-- Overwriting a slot changes the base object only if the slot is the base object's. -/
theorem base?_put_slot {v : Value} {i : Nat}
    (hne : ∀ c entry, S.structOf? v = some c → entry ∈ c.slotsOf .base → i ≠ entry.2)
    (new : Value) : S.base? (v.put [.slot i] new) = S.base? v := by
  unfold base?
  rw [structOf?_put_slot]
  cases hc : S.structOf? v with
  | none => rfl
  | some c =>
    cases hentry : c.baseSlot? with
    | none => simp [hentry]
    | some entry =>
      simp [hentry, slotSpot?_put_of_ne (hne c entry hc (List.mem_of_mem_head? hentry))]

theorem field?_put_field {v : Value} {name other : String} {spot : Spot}
    (h : S.field? v name = some spot) (hne : name ≠ other) (new : Value) :
    S.field? (v.put spot.place new) other = S.field? v other := by
  obtain ⟨c, entry, hc, hentry, hname, hplace⟩ := field?_cases h
  rw [hplace]
  refine field?_put_slot (fun c' entry' hc' hentry' hname' heq => hne ?_) new
  obtain rfl : c = c' := Option.some.inj (hc.symm.trans hc')
  rw [← hname, ← hname', (slot_eq_of_position_eq hentry hentry' heq).1]

theorem field?_put_base {v : Value} {up : Spot} (h : S.base? v = some up) (name : String)
    (new : Value) : S.field? (v.put up.place new) name = S.field? v name := by
  obtain ⟨c, entry, hc, hentry, hplace⟩ := base?_cases h
  rw [hplace]
  refine field?_put_slot (fun c' entry' hc' hentry' _ heq => ?_) new
  obtain rfl : c = c' := Option.some.inj (hc.symm.trans hc')
  cases (slot_eq_of_position_eq hentry hentry' heq).2

theorem base?_put_field {v : Value} {name : String} {spot : Spot}
    (h : S.field? v name = some spot) (new : Value) :
    S.base? (v.put spot.place new) = S.base? v := by
  obtain ⟨c, entry, hc, hentry, -, hplace⟩ := field?_cases h
  rw [hplace]
  refine base?_put_slot (fun c' entry' hc' hentry' heq => ?_) new
  obtain rfl : c = c' := Option.some.inj (hc.symm.trans hc')
  cases (slot_eq_of_position_eq hentry hentry' heq).2

/-! ## Fields of base objects -/

/-- The field of the given name that the class of the base object a number of levels up
    declares. -/
def fieldUp? (S : Schema) (v : Value) (depth : Nat) (name : String) : Option Spot := do
  let owner ← S.ascend? v depth
  let field ← S.field? owner.value name
  some (owner.within field)

theorem fieldUp?_zero (S : Schema) (v : Value) (name : String) :
    S.fieldUp? v 0 name = S.field? v name := by
  cases hfield : S.field? v name <;> simp [fieldUp?, ascend?, Spot.whole, Spot.within, hfield]

theorem fieldUp?_succ (S : Schema) (v : Value) (depth : Nat) (name : String) :
    S.fieldUp? v (depth + 1) name =
      (S.base? v).bind fun up => (S.fieldUp? up.value depth name).map up.within := by
  cases hup : S.base? v with
  | none => simp [fieldUp?, ascend?, hup]
  | some up =>
    cases howner : S.ascend? up.value depth with
    | none => simp [fieldUp?, ascend?, hup, howner]
    | some owner =>
      cases hfield : S.field? owner.value name <;>
        simp [fieldUp?, ascend?, hup, howner, hfield, Spot.within]

/-- The fields of a base object are fields of the object around it, further up. -/
theorem fieldUp?_of_ascend? {v : Value} {depth : Nat} {up : Spot}
    (h : S.ascend? v depth = some up) (level : Nat) (name : String) :
    S.fieldUp? v (depth + level) name = (S.fieldUp? up.value level name).map up.within := by
  induction depth generalizing v up with
  | zero =>
    simp only [ascend?, Option.some.injEq] at h
    subst h
    cases hfield : S.fieldUp? v level name <;> simp [Spot.whole, Spot.within, hfield]
  | succ depth ih =>
    simp only [ascend?, Option.bind_eq_bind, Option.bind_eq_some_iff, Option.some.injEq] at h
    obtain ⟨first, hfirst, rest, hrest, rfl⟩ := h
    rw [Nat.succ_add, fieldUp?_succ, hfirst, Option.bind_some, ih hrest, Option.map_map]
    cases hfield : S.fieldUp? rest.value level name <;> simp [Spot.within, hfield]

/-- A field of another name, or at another level, is not changed when a field is overwritten. The
    induction goes up both chains at once: as long as both fields lie further up, they lie in the
    same base object; then one lies in a slot of the object itself, and the other in a different
    slot or in the base object. -/
theorem fieldUp?_put_of_ne {v : Value} {depth level : Nat} {name other : String} {inside : Spot}
    (h : S.fieldUp? v depth name = some inside) (hne : depth ≠ level ∨ name ≠ other)
    (new : Value) : S.fieldUp? (v.put inside.place new) level other = S.fieldUp? v level other := by
  induction depth generalizing v level inside with
  | zero =>
    rw [fieldUp?_zero] at h
    cases level with
    | zero =>
      rw [fieldUp?_zero, fieldUp?_zero]
      exact field?_put_field h (hne.resolve_left fun hlevel => hlevel rfl) new
    | succ level => rw [fieldUp?_succ, fieldUp?_succ, base?_put_field h]
  | succ depth ih =>
    rw [fieldUp?_succ, Option.bind_eq_some_iff] at h
    obtain ⟨up, hup, h⟩ := h
    obtain ⟨rest, hrest, rfl⟩ := Option.map_eq_some_iff.1 h
    rw [(in_of_base? hup).put_within rest new]
    cases level with
    | zero =>
      rw [fieldUp?_zero, fieldUp?_zero]
      exact field?_put_base hup other _
    | succ level =>
      have hrec := ih hrest (hne.imp_left fun hlevel heq => hlevel (congrArg (· + 1) heq))
      rw [fieldUp?_succ, fieldUp?_succ, base?_put hup, hup, Option.bind_some, Option.bind_some,
        hrec]
      rfl

end Schema

/-! ## Scripts that part ways -/

namespace Evaluation

variable {E F : Evaluation}

theorem fieldSpot?_eq (E : Evaluation) (v : Value) (name : String) :
    E.fieldSpot? v name =
      (E.schema.resolveField v.ty name).bind fun found =>
        E.schema.fieldUp? v found.depth name := rfl

theorem fieldSpot?_put_of_ne {v : Value} {name other : String} {inside : Spot}
    (h : E.fieldSpot? v name = some inside) (hne : name ≠ other) (new : Value) :
    E.fieldSpot? (v.put inside.place new) other = E.fieldSpot? v other := by
  have hty := ty_put_fieldSpot? h new
  rw [fieldSpot?_eq, Option.bind_eq_some_iff] at h
  obtain ⟨found, -, hfield⟩ := h
  rw [fieldSpot?_eq, fieldSpot?_eq, hty]
  exact Option.bind_congr fun other' _ =>
    Schema.fieldUp?_put_of_ne hfield (.inr hne) new

/-- Only a value without optional layers has a class with fields. -/
theorem seeThrough_of_resolveField {S : Schema} {v : Value} {name : String} {found : Found Member}
    (h : S.resolveField v.ty name = some found) : v.seeThrough = .ok (.whole v) := by
  cases v with
  | absent inner | present payload =>
    simp [Value.ty, Schema.resolveField, Schema.findUp, Schema.ancestors, Schema.rank, rankIn,
      Schema.lineage, Schema.classOf, Class.field?] at h
  | _ => rfl

theorem fieldSpot?_congr (h : F.schema = E.schema) (v : Value) (name : String) :
    F.fieldSpot? v name = E.fieldSpot? v name := by
  rw [fieldSpot?_eq, fieldSpot?_eq, h]

/-- What a script reads depends on the class of the object in front of it and on the field that
    its first name leads to. -/
theorem result_step_congr {first : PlacedSegment} {rest : List PlacedSegment}
    {target target' : Value} {here there : Spot} {name : String}
    (hsee : target.seeThrough = .ok here) (hsee' : target'.seeThrough = .ok there)
    (hseg : first.segment = .field name) (hty : there.value.ty = here.value.ty)
    (hspot : E.fieldSpot? there.value name = E.fieldSpot? here.value name) :
    (E.step (first :: rest) target' none).result = (E.step (first :: rest) target none).result := by
  cases hfound : E.fieldSpot? here.value name with
  | none => simp [step, hsee, hsee', hseg, hspot, hfound, hty]
  | some inside =>
    by_cases hrest : rest = []
    · subst hrest
      simp [step, hsee, hsee', hseg, hspot, hfound, hty, finish]
    · simp [step, hsee, hsee', hseg, hspot, hfound, hrest]

/-- A script that starts with another field of the same object reads what it read before. -/
theorem result_step_put_of_ne {second : PlacedSegment} {rest : List PlacedSegment} {target : Value}
    {here inside : Spot} {name other : String} (hschema : F.schema = E.schema)
    (hsee : target.seeThrough = .ok here) (hspot : E.fieldSpot? here.value name = some inside)
    (hseg : second.segment = .field other) (hne : name ≠ other) (new : Value) :
    (F.step (second :: rest) (target.put (here.within inside).place new) none).result =
      (F.step (second :: rest) target none).result := by
  refine result_step_congr hsee (seeThrough_put_field hsee hspot new) hseg
    (ty_put_fieldSpot? hspot new) ?_
  rw [fieldSpot?_congr hschema, fieldSpot?_congr hschema]
  exact fieldSpot?_put_of_ne hspot hne new

/-- The induction follows the names that the two scripts share; where they part ways, the second
    one reads a field that the first one has not touched. -/
theorem Run.result_apart {segments : List PlacedSegment} {target after : Value}
    {terminal : Option Value} {calls : List Invocation} {result : Except ScriptError Value}
    (h : E.Run segments target terminal calls result after) (hschema : F.schema = E.schema)
    (hfields : ∀ s ∈ segments, s.segment.isCall = false) {others : List PlacedSegment}
    (hothers : ∀ s ∈ others, s.segment.isCall = false)
    (hapart : ¬ segments.map (·.segment.name) <+: others.map (·.segment.name))
    (hapart' : ¬ others.map (·.segment.name) <+: segments.map (·.segment.name)) :
    (F.step others after none).result = (F.step others target none).result := by
  induction h generalizing others with
  | null | ended | unknownField => rfl
  | lastField hsee hseg hspot =>
    cases others with
    | nil => exact absurd (List.nil_prefix) hapart'
    | cons second rest =>
      have hseg' := Segment.eq_field_of_isCall (List.forall_mem_cons.1 hothers).1
      refine result_step_put_of_ne hschema hsee hspot hseg' (fun heq => hapart ?_) _
      simp [hseg, Segment.name, heq]
  | @hop first rest target after _ here inside name _ _ hrest hsee hseg hspot _ ih =>
    cases others with
    | nil => exact absurd (List.nil_prefix) hapart'
    | cons second others =>
      obtain ⟨hsecond, hothers⟩ := List.forall_mem_cons.1 hothers
      have hseg' := Segment.eq_field_of_isCall hsecond
      by_cases heq : name = second.segment.name
      · have hname : first.segment.name = second.segment.name := by rw [hseg, ← heq]; rfl
        simp only [List.map_cons, hname, List.cons_prefix_cons, true_and] at hapart hapart'
        have hne : others ≠ [] := fun hnil => hapart' (by simp [hnil])
        rw [← heq] at hseg'
        have hspot' := fieldSpot?_put hspot after
        rw [← fieldSpot?_congr hschema] at hspot hspot'
        rw [step_hop hne (seeThrough_put_field hsee hspot after) hseg' hspot',
          step_hop hne hsee hseg' hspot]
        exact ih (List.forall_mem_cons.1 hfields).2 hothers hapart hapart'
      · exact result_step_put_of_ne hschema hsee hspot hseg' heq after
  | unbound _ hseg | unknownMethod _ hseg | faulted _ hseg | returned _ hseg | continued _ _ hseg =>
    exact absurd hfields (not_fields_of_call hseg _)

/-- A script that starts with a field changes at most that field. -/
theorem Run.changes_first_field {first : PlacedSegment} {rest : List PlacedSegment}
    {target after : Value} {terminal : Option Value} {calls : List Invocation}
    {result : Except ScriptError Value}
    (h : E.Run (first :: rest) target terminal calls result after) {name : String}
    (hseg : first.segment = .field name) :
    after = target ∨ ∃ here inside new, target.seeThrough = .ok here ∧
      E.fieldSpot? here.value name = some inside ∧
      after = target.put (here.within inside).place new := by
  cases h with
  | null | unknownField | unbound | unknownMethod => exact .inl rfl
  | lastField hsee hseg' hspot | hop _ hsee hseg' hspot =>
    obtain rfl := Segment.field.inj (hseg.symm.trans hseg')
    exact .inr ⟨_, _, _, hsee, hspot, rfl⟩
  | faulted _ hseg' | returned _ hseg' | continued _ _ hseg' =>
    rw [hseg] at hseg'
    cases hseg'

/-- A field found from a base object, when it is overwritten, is the only field of the object
    around it that changes. -/
theorem Run.changes_one_field {first : PlacedSegment} {rest : List PlacedSegment} {v after : Value}
    {depth : Nat} {up : Spot} {terminal : Option Value} {calls : List Invocation}
    {result : Except ScriptError Value} (hup : E.schema.ascend? v depth = some up)
    (h : E.Run (first :: rest) up.value terminal calls result after) {name : String}
    (hseg : first.segment = .field name) {found : Found Member}
    (hfound : E.schema.resolveField up.value.ty name = some found) {level : Nat} {other : String}
    (hne : depth + found.depth ≠ level ∨ name ≠ other) :
    E.schema.fieldUp? (v.put up.place after) level other = E.schema.fieldUp? v level other := by
  rcases h.changes_first_field hseg with rfl | ⟨here, inside, new, hsee, hspot, rfl⟩
  · rw [Value.put_at? (Schema.in_of_ascend? hup)]
  · obtain rfl : here = .whole up.value :=
      Except.ok.inj (hsee.symm.trans (seeThrough_of_resolveField hfound))
    have hinside : E.schema.fieldUp? up.value found.depth name = some inside := by
      simpa [fieldSpot?_eq, Spot.whole, hfound] using hspot
    have hwhole : E.schema.fieldUp? v (depth + found.depth) name = some (up.within inside) := by
      rw [Schema.fieldUp?_of_ascend? hup, hinside, Option.map_some]
    show E.schema.fieldUp? (v.put up.place (up.value.put inside.place new)) level other = _
    rw [← (Schema.in_of_ascend? hup).put_within inside new]
    exact Schema.fieldUp?_put_of_ne hwhole hne new

/-- An assignment through fields does not change what another script of fields reads, value or
    error, unless the names of one of the two scripts begin with all names of the other.

    The second part is about fields that hide others of the same name. A script is evaluated on a
    value or on one of its base objects, and its first name is found a number of levels above
    that. Then of all fields that the value and its base objects declare, whatever their names,
    only the one found can have changed. -/
theorem assignment_leaves_others (E : Evaluation)
    (hfields : ∀ s ∈ E.script.segments, s.segment.isCall = false) (new : Value) :
    (∀ (target : Value) (F : Evaluation), F.schema = E.schema →
      (∀ s ∈ F.script.segments, s.segment.isCall = false) →
      ¬ E.script.names <+: F.script.names → ¬ F.script.names <+: E.script.names →
      (F.evaluate (E.evaluate target (some new)).target none).result =
        (F.evaluate target none).result) ∧
    ∀ (v : Value) (depth : Nat) (up : Spot) (name : String) (found : Found Member),
      E.schema.ascend? v depth = some up → E.script.names.head? = some name →
      E.schema.resolveField up.value.ty name = some found →
      ∀ level other, depth + found.depth ≠ level ∨ name ≠ other →
        E.schema.fieldUp? (v.put up.place (E.evaluate up.value (some new)).target) level other =
          E.schema.fieldUp? v level other := by
  have hrun (target : Value) := run_of_fields hfields target (some new)
  refine ⟨fun target F hschema hothers hapart hapart' => ?_,
    fun v depth up name found hup hname hfound level other hne => ?_⟩
  · exact (hrun target).result_apart hschema hfields hothers hapart hapart'
  · cases hsegments : E.script.segments with
    | nil => simp [Script.names, hsegments] at hname
    | cons first rest =>
      obtain rfl : first.segment.name = name := by
        simpa [Script.names, hsegments] using hname
      have hseg := Segment.eq_field_of_isCall (hfields first (by simp [hsegments]))
      exact (hsegments ▸ hrun up.value).changes_one_field hup hseg hfound hne

/-- The script for a name in the gallery. -/
def galleryName : Evaluation := ⟨gallery, .typeAware, ⟨"name", [⟨0, .field "name"⟩]⟩, .empty⟩

/-- The script for an age in the gallery. -/
def galleryAge : Evaluation := ⟨gallery, .typeAware, ⟨"age", [⟨0, .field "age"⟩]⟩, .empty⟩

/-- A puppy has a name of its own besides the one it has as an animal. Giving it a name changes
    neither its age nor its name as an animal, and naming the dog that it is, which names the
    animal, does not change its own name. -/
theorem names_of_puppy_do_not_interfere :
    (galleryAge.evaluate (galleryName.evaluate Gallery.puppy.initial
        (some (.string "Bo"))).target none).result =
      (galleryAge.evaluate Gallery.puppy.initial none).result ∧
    gallery.fieldUp? (Gallery.puppy.initial.put [] (galleryName.evaluate Gallery.puppy.initial
        (some (.string "Bo"))).target) 2 "name" =
      gallery.fieldUp? Gallery.puppy.initial 2 "name" ∧
    gallery.fieldUp? (Gallery.puppy.initial.put [.slot 0] (galleryName.evaluate
        Gallery.dog.initial (some (.string "Bo"))).target) 0 "name" =
      gallery.fieldUp? Gallery.puppy.initial 0 "name" := by
  obtain ⟨hscripts, hlevels⟩ :=
    assignment_leaves_others galleryName (by decide) (.string "Bo")
  refine ⟨?_, ?_, ?_⟩
  · exact hscripts Gallery.puppy.initial galleryAge rfl (by decide) (by decide) (by decide)
  · exact hlevels Gallery.puppy.initial 0 (.whole Gallery.puppy.initial) "name"
      ⟨Gallery.puppy.objects, 0, ⟨"name", .optional .string⟩⟩ rfl rfl (by rfl) 2 "name"
      (.inl (by decide))
  · exact hlevels Gallery.puppy.initial 1 ⟨[.slot 0], Gallery.dog.initial⟩ "name"
      ⟨Gallery.animal.objects, 1, ⟨"name", .string⟩⟩ (by rfl) rfl (by rfl) 0 "name"
      (.inl (by decide))

end Evaluation

end ObjectPath
