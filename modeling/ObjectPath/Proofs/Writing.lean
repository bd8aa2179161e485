import ObjectPath.Proofs.Composition
import ObjectPath.Proofs.Declared

/-!
# Writing and reading at a path

Reading cuts the whole path at its dots and follows the names from the left. Writing cuts off the
last name from the right, follows the names in front of it, and only then looks for the field. The
names are the same, whatever the path is, so both end in front of the same obstacle or at the same
field. What is left for writing is the conversion of the new value to the type of what is there.

Writing at a path and assigning through the path as a script agree, too, as far as the path can be
read.

Results:
* `Access.follow_append`: following names, and then more names.
* `Access.follow_put`: what is overwritten is found where it was.
* `Access.assign_of_error`, `Access.assign_of_follow`: writing, in terms of reading.
* `set_reaches_what_get_reaches`: which paths can be written at, and what is read there afterwards.
* `Evaluation.follow?_of_follow`: scripts follow the names that paths follow.
* `set_agrees_with_assignment`: writing at a path, and assigning to it as a script.
-/

namespace ObjectPath

/-! ## Following names -/

namespace Access

variable {S : Schema} {script path : String}

theorem follow_singleton (S : Schema) (script name : String) (v : Value) :
    follow S script [name] v = declared S script v name := by
  cases hdeclared : declared S script v name with
  | error e => exact follow_of_error hdeclared []
  | ok field =>
    rw [follow_of_ok hdeclared, follow, Except.map, Spot.within_whole]

theorem follow_append (S : Schema) (script : String) (front back : List String) (v : Value) :
    follow S script (front ++ back) v =
      (follow S script front v).bind fun spot =>
        (follow S script back spot.value).map spot.within := by
  induction front generalizing v with
  | nil =>
    show follow S script back v = (follow S script back v).map (Spot.whole v).within
    cases follow S script back v <;> rfl
  | cons name front ih =>
    rw [List.cons_append]
    cases hdeclared : declared S script v name with
    | error e =>
      rw [follow_of_error hdeclared, follow_of_error hdeclared]
      rfl
    | ok field =>
      rw [follow_of_ok hdeclared, follow_of_ok hdeclared, ih]
      cases follow S script front field.value with
      | error e => rfl
      | ok spot =>
        simp only [Except.map, Except.bind, Spot.value_within]
        cases follow S script back spot.value with
        | error e => rfl
        | ok rest => simp only [Spot.within_within]

/-- A declared field that is overwritten is still the declared field, behind the same layers. -/
theorem declared_put {v : Value} {name : String} {field : Spot}
    (h : declared S script v name = .ok field) (new : Value) :
    declared S script (v.put field.place new) name = .ok ⟨field.place, new⟩ := by
  obtain ⟨here, inside, member, hsee, hclass, hfield, rfl⟩ := of_declared h
  obtain ⟨i, hplace⟩ := Schema.place_of_field? hfield
  have hwhole : (here.value.put inside.place new).seeThrough =
      .ok (.whole (here.value.put inside.place new)) := by
    rw [hplace]
    exact Value.seeThrough_put_slot (Value.seeThrough_of_seeThrough hsee) i [] new
  have hty : (here.value.put inside.place new).ty = here.value.ty := by
    rw [hplace, Value.ty_put_slot]
  rw [(Value.seeThrough_in hsee).put_within inside new]
  unfold declared
  rw [Value.seeThrough_put hsee hwhole]
  simp only [hty, hclass, Schema.field?_put hfield new]
  rfl

/-- What lies at the end of the names is overwritten and found again, at the same place. -/
theorem follow_put {names : List String} {v : Value} {spot : Spot}
    (h : follow S script names v = .ok spot) (new : Value) :
    follow S script names (v.put spot.place new) = .ok ⟨spot.place, new⟩ := by
  induction names generalizing v spot with
  | nil =>
    cases h
    rfl
  | cons name names ih =>
    obtain ⟨field, rest, hdeclared, hrest, rfl⟩ := of_follow_cons h
    rw [(in_of_declared hdeclared).put_within rest new, follow_of_ok (declared_put hdeclared _),
      ih hrest]
    rfl

/-! ## Writing in terms of reading -/

/-- Writing in a declared field puts what the field holds afterwards in its place. -/
theorem write_of_declared {here inside : Spot} {target : Value} {name : String}
    (hsee : target.seeThrough = .ok here)
    (hdeclared : declared S script target name = .ok (here.within inside)) (new : Value) :
    write S script target name new =
      ⟨(fill script here.value.ty name inside.value new).1,
        target.put (here.within inside).place
          (fill script here.value.ty name inside.value new).2⟩ := by
  rw [write, hdeclared]
  simp only [hsee, Spot.value_within]

/-- Where nothing is read, nothing is written, for the same reason. -/
theorem assign_of_error {target : Value} {e : ScriptError}
    (h : follow S path (Text.parts '.' path) target = .error e) (new : Value) :
    assign S target path new = ⟨.error e, target⟩ := by
  rw [← Text.frontParts_append_lastPart, follow_append] at h
  unfold assign
  cases hparent : follow S path (Text.frontParts '.' path) target with
  | error cause =>
    obtain rfl : cause = e := by simpa [hparent, Except.bind] using h
    rfl
  | ok parent =>
    rw [hparent, Except.bind, follow_singleton] at h
    cases hdeclared : declared S path parent.value (Text.lastPart '.' path) with
    | error cause =>
      obtain rfl : cause = e := by simpa [hdeclared, Except.map] using h
      have hkept : target.put parent.place parent.value = target :=
        Value.put_at? (in_of_follow hparent)
      simp only [write, hdeclared, hkept]
    | ok field => simp [hdeclared, Except.map] at h

/-- Where something is read, it is a declared field of an owner. Writing there is filling that
    field. -/
theorem assign_of_follow {target : Value} {field : Spot}
    (h : follow S path (Text.parts '.' path) target = .ok field) :
    ∃ parent here inside member, follow S path (Text.frontParts '.' path) target = .ok parent ∧
      parent.value.seeThrough = .ok here ∧
      (S.classOf here.value.ty).field? (Text.lastPart '.' path) = some member ∧
      S.field? here.value (Text.lastPart '.' path) = some inside ∧
      field = parent.within (here.within inside) ∧
      ∀ new, assign S target path new =
        ⟨(fill path here.value.ty (Text.lastPart '.' path) field.value new).1,
          target.put field.place
            (fill path here.value.ty (Text.lastPart '.' path) field.value new).2⟩ := by
  rw [← Text.frontParts_append_lastPart, follow_append] at h
  cases hparent : follow S path (Text.frontParts '.' path) target with
  | error e => simp [hparent, Except.bind] at h
  | ok parent =>
    rw [hparent, Except.bind, follow_singleton, Except.map_eq_ok_iff] at h
    obtain ⟨last, hlast, rfl⟩ := h
    obtain ⟨here, inside, member, hsee, hclass, hfield, rfl⟩ := of_declared hlast
    refine ⟨parent, here, inside, member, rfl, hsee, hclass, hfield, rfl, fun new => ?_⟩
    unfold assign
    simp only [hparent, write_of_declared hsee hlast]
    rw [(in_of_follow hparent).put_within (here.within inside)]
    rfl

/-- A field takes a value that converts to the type of what it holds, and no other. -/
theorem fill_cases (script : String) (owner : Ty) (name : String) (field new : Value) :
    (∃ stored, Converts field.ty new stored ∧
      fill script owner name field new = (.ok (), stored)) ∨
    ((∀ stored, ¬ Converts field.ty new stored) ∧
      fill script owner name field new =
        (.error (.typeMismatch owner.path name field.ty.path new.ty.path script), field)) := by
  unfold fill
  cases hstored : field.overwrite? new with
  | some stored => exact .inl ⟨stored, .of_convert? hstored, rfl⟩
  | none =>
    refine .inr ⟨fun stored hconverts => ?_, rfl⟩
    have hconvert : field.overwrite? new = some stored := hconverts.convert?
    rw [hstored] at hconvert
    cases hconvert

/-- Where something is read, writing stores the converted value, or fails because there is none. -/
theorem assign_cases {target : Value} {field : Spot}
    (h : follow S path (Text.parts '.' path) target = .ok field) (new : Value) :
    (∃ stored, Converts field.value.ty new stored ∧
      assign S target path new = ⟨.ok (), target.put field.place stored⟩) ∨
    ((∀ stored, ¬ Converts field.value.ty new stored) ∧
      ∃ cls, assign S target path new =
        ⟨.error (.typeMismatch cls (Text.lastPart '.' path) field.value.ty.path new.ty.path path),
          target⟩) := by
  obtain ⟨_, here, _, _, -, -, -, -, -, hassign⟩ := assign_of_follow h
  rw [hassign]
  rcases fill_cases path here.value.ty (Text.lastPart '.' path) field.value new with
    ⟨stored, hconverts, hfill⟩ | ⟨hnone, hfill⟩
  · rw [hfill]
    exact .inl ⟨stored, hconverts, rfl⟩
  · have hkept : target.put field.place field.value = target := Value.put_at? (in_of_follow h)
    rw [hfill, hkept]
    exact .inr ⟨hnone, here.value.ty.path, rfl⟩

end Access

/-- Whatever the path is, writing at it fails as reading at it fails, if it does. Otherwise writing
    fails exactly if the new value does not convert to the type of what is read, and that failure is
    a type mismatch; and what is read after writing is the new value, converted. -/
theorem set_reaches_what_get_reaches (S : Schema) (target : Value) (path : String) (new : Value) :
    (∀ e, Access.get S target path = .error e →
      (Access.assign S target path new).result = .error e) ∧
    ∀ old, Access.get S target path = .ok old →
      ((∃ e, (Access.assign S target path new).result = .error e) ↔
        ∀ stored, ¬ Converts old.ty new stored) ∧
      (∀ e, (Access.assign S target path new).result = .error e →
        ∃ cls, e = .typeMismatch cls (Text.lastPart '.' path) old.ty.path new.ty.path path) ∧
      ((Access.assign S target path new).result = .ok () →
        ∃ stored, Converts old.ty new stored ∧
          Access.get S (Access.assign S target path new).target path = .ok stored) := by
  constructor
  · intro e hget
    have hfollow : Access.follow S path (Text.parts '.' path) target = .error e :=
      Except.map_eq_error_iff.1 hget
    rw [Access.assign_of_error hfollow]
  · intro old hget
    obtain ⟨field, hfollow, rfl⟩ := Except.map_eq_ok_iff.1 hget
    rcases Access.assign_cases hfollow new with ⟨stored, hconverts, hassign⟩ | ⟨hnone, cls, hassign⟩
    · rw [hassign]
      refine ⟨⟨?_, fun hnone => absurd hconverts (hnone stored)⟩, by simp, fun _ => ?_⟩
      · rintro ⟨e, he⟩
        cases he
      · refine ⟨stored, hconverts, ?_⟩
        rw [Access.get, Access.follow_put hfollow stored]
        rfl
    · rw [hassign]
      refine ⟨⟨fun _ => hnone, fun _ => ⟨_, rfl⟩⟩, ?_, by simp⟩
      rintro e ⟨⟩
      exact ⟨cls, rfl⟩

/-- A person with a home. -/
def Sample.tenant : Value := Gallery.person.initial.fill [2] (.present Gallery.home.initial)

/-- A home gets its number through the person who lives in it, but not at a path with an empty
    name in it. -/
theorem number_of_home_is_set :
    (∃ stored, Converts (.int .u16) (.int .u16 7) stored ∧
      Access.get gallery (Access.assign gallery Sample.tenant "home.number" (.int .u16 7)).target
        "home.number" = .ok stored) ∧
    (Access.assign gallery Sample.tenant "home..number" (.int .u16 7)).result =
      .error (.memberNotFound "zoo::Home" "" "home..number") := by
  obtain ⟨-, hread⟩ :=
    set_reaches_what_get_reaches gallery Sample.tenant "home.number" (.int .u16 7)
  obtain ⟨hunread, -⟩ :=
    set_reaches_what_get_reaches gallery Sample.tenant "home..number" (.int .u16 7)
  obtain ⟨-, -, hback⟩ := hread (.int .u16 0) (by decide +kernel)
  exact ⟨hback (by decide +kernel), hunread _ (by decide +kernel)⟩

/-! ## Fields as segments -/

namespace Evaluation

variable {E : Evaluation}

theorem isCall_of_names {segments : List PlacedSegment} {names : List String}
    (h : segments.map (·.segment) = names.map .field) :
    ∀ s ∈ segments, s.segment.isCall = false := by
  intro s hs
  have hmem : s.segment ∈ names.map Segment.field := h ▸ List.mem_map_of_mem hs
  obtain ⟨name, -, hname⟩ := List.mem_map.1 hmem
  rw [← hname]
  rfl

theorem map_name_of_names {segments : List PlacedSegment} {names : List String}
    (h : segments.map (·.segment) = names.map .field) : segments.map (·.segment.name) = names := by
  calc segments.map (·.segment.name) = (segments.map (·.segment)).map (·.name) := by
        rw [List.map_map]
        rfl
    _ = names := by
        rw [h, List.map_map]
        exact List.map_id names

/-! ## Writing and assigning -/

/-- Where names are declared one after the other, a script finds no other members. -/
theorem follow?_of_follow {script : String} {names : List String} {v : Value} {spot : Spot}
    (h : Access.follow E.schema script names v = .ok spot) : E.follow? names v = some spot := by
  induction names generalizing v spot with
  | nil =>
    cases h
    rfl
  | cons name names ih =>
    obtain ⟨field, rest, hdeclared, hrest, rfl⟩ := Access.of_follow_cons h
    obtain ⟨here, inside, member, hsee, hclass, hfield, rfl⟩ := Access.of_declared hdeclared
    have hspot : E.fieldSpot? here.value name = some inside :=
      (fieldSpot?_of_own hclass).trans hfield
    have hmore : E.follow? names inside.value = some rest := ih hrest
    rw [follow?_cons_of_seeThrough hsee, hspot, Option.bind_some, hmore]
    rfl

/-- The end of an assignment fills the field and returns what was in it. -/
theorem finish_some (ty : Ty) (name : String) (field new : Value) :
    E.finish ty name field (some new) =
      ((Access.fill E.source ty name field new).1.map fun _ => field,
        (Access.fill E.source ty name field new).2) := by
  unfold Access.fill
  cases hstored : field.overwrite? new <;> simp [finish, hstored, Except.map]

/-- The fields of a path that can be read, evaluated with a value to assign, write it there. -/
theorem step_of_follow {path : String} (hpath : E.source = path) {target : Value} {field : Spot}
    (h : Access.follow E.schema path (Text.parts '.' path) target = .ok field)
    {segments : List PlacedSegment}
    (hnames : segments.map (·.segment) = (Text.parts '.' path).map .field) (new : Value) :
    (E.step segments target (some new)).result =
        (Access.assign E.schema target path new).result.map (fun _ => field.value) ∧
      (E.step segments target (some new)).target =
        (Access.assign E.schema target path new).target := by
  obtain ⟨parent, here, inside, member, hparent, hsee, hclass, hfield, rfl, hassign⟩ :=
    Access.assign_of_follow h
  rw [← Text.frontParts_append_lastPart, List.map_append, List.map_eq_append_iff] at hnames
  obtain ⟨front, back, rfl, hfront, hback⟩ := hnames
  obtain ⟨last, rfl, hlast⟩ := List.map_eq_singleton_iff.1 hback
  have hfollow : E.follow? (front.map (·.segment.name)) target = some parent := by
    rw [map_name_of_names hfront]
    exact follow?_of_follow hparent
  have hspot : E.fieldSpot? here.value (Text.lastPart '.' path) = some inside :=
    (fieldSpot?_of_own hclass).trans hfield
  obtain ⟨hresult, htarget⟩ :=
    step_append_of_follow? (isCall_of_names hfront) (List.cons_ne_nil last []) hfollow (some new)
  rw [hresult, htarget, step_field hsee hlast hspot, finish_some, hpath, hassign,
    (Access.in_of_follow hparent).put_within (here.within inside)]
  exact ⟨rfl, rfl⟩

end Evaluation

theorem Schema.NamesByIdentifiers.isIdentifier_of_follow {S : Schema} {target : Value}
    (hfields : S.NamesByIdentifiers target) {script : String} {names : List String} {field : Spot}
    (h : Access.follow S script names target = .ok field) :
    ∀ name ∈ names, Text.isIdentifier name.toList = true := by
  intro name hname
  obtain ⟨here, hhere, member, hmember, rfl⟩ := Access.declared_of_follow h name hname
  exact hfields here.place here.value hhere member hmember

/-- Writing at a path that can be read succeeds exactly if assigning to the path as a script does.
    Then both leave the same target, and the assignment returns what was read. Otherwise both fail
    with the same type mismatch, and the target stays as it was. -/
theorem set_agrees_with_assignment (R : Reflector) {target : Value}
    (hfields : R.schema.NamesByIdentifiers target) {path : String} {old : Value}
    (hget : Access.get R.schema target path = .ok old) (new : Value) :
    ((Access.assign R.schema target path new).result = .ok () ↔
      ∃ v, (R.reflect target path [] (some new)).result = .ok v) ∧
    ((Access.assign R.schema target path new).result = .ok () →
      (R.reflect target path [] (some new)).result = .ok old ∧
        (R.reflect target path [] (some new)).target =
          (Access.assign R.schema target path new).target) ∧
    ∀ e, (Access.assign R.schema target path new).result = .error e →
      (∃ cls, e = .typeMismatch cls (Text.lastPart '.' path) old.ty.path new.ty.path path) ∧
        (R.reflect target path [] (some new)).result = .error e ∧
        (Access.assign R.schema target path new).target = target ∧
        (R.reflect target path [] (some new)).target = target := by
  obtain ⟨field, hfollow, rfl⟩ := Except.map_eq_ok_iff.1 hget
  have hpath := hfields.isIdentifier_of_follow hfollow
  obtain ⟨segments, hnames, hreflect⟩ := R.reflect_of_path target hpath (some new)
  have hattached : (some new).isSome → Evaluation.detachedBy? segments = none :=
    fun _ => Evaluation.detachedBy?_of_fields (Evaluation.isCall_of_names hnames)
  rw [Evaluation.evaluate_of_attached hattached] at hreflect
  obtain ⟨hresult, htarget⟩ := Evaluation.step_of_follow
    (E := R.evaluation ⟨path, segments⟩ (.ofValues [])) rfl hfollow hnames new
  have hresult' : (R.reflect target path [] (some new)).result =
      (Access.assign R.schema target path new).result.map fun _ => field.value := by
    rw [hreflect]
    exact hresult
  have htarget' : (R.reflect target path [] (some new)).target =
      (Access.assign R.schema target path new).target := by
    rw [hreflect]
    exact htarget
  rw [hresult', htarget']
  rcases Access.assign_cases hfollow new with ⟨stored, -, hassign⟩ | ⟨-, cls, hassign⟩
  · rw [hassign]
    exact ⟨⟨fun _ => ⟨field.value, rfl⟩, fun _ => rfl⟩, fun _ => ⟨rfl, rfl⟩, by simp⟩
  · rw [hassign]
    refine ⟨by simp, by simp, ?_⟩
    rintro e ⟨⟩
    exact ⟨⟨cls, rfl⟩, rfl, rfl, rfl⟩

/-- A puppy gets a name of its own, which must be a text. -/
theorem name_of_puppy_is_assigned :
    (Sample.galleryReflector.reflect Gallery.puppy.initial "name" []
        (some (.string "Rex"))).result = .ok (.absent .string) ∧
    (Sample.galleryReflector.reflect Gallery.puppy.initial "name" []
        (some (.string "Rex"))).target =
      (Access.assign gallery Gallery.puppy.initial "name" (.string "Rex")).target ∧
    (Sample.galleryReflector.reflect Gallery.puppy.initial "name" [] (some .unit)).result =
      .error (.typeMismatch "zoo::Puppy" "name" "core::option::Option<alloc::string::String>" "()"
        "name") := by
  have hread : Access.get gallery Gallery.puppy.initial "name" = .ok (.absent .string) := by
    decide +kernel
  obtain ⟨-, hstored, -⟩ := set_agrees_with_assignment Sample.galleryReflector
    Sample.namesByIdentifiers_gallery hread (.string "Rex")
  obtain ⟨-, -, hrefused⟩ := set_agrees_with_assignment Sample.galleryReflector
    Sample.namesByIdentifiers_gallery hread .unit
  obtain ⟨hold, hsame⟩ := hstored (by decide +kernel)
  obtain ⟨-, hmismatch, -⟩ := hrefused
    (.typeMismatch "zoo::Puppy" "name" "core::option::Option<alloc::string::String>" "()" "name")
    (by decide +kernel)
  exact ⟨hold, hsame, hmismatch⟩

end ObjectPath
