import ObjectPath.Proofs.Conformity
import ObjectPath.Proofs.Lookup
import ObjectPath.Proofs.Paths
import ObjectPath.Proofs.Separation

/-!
# Declared fields and inherited ones

Reading at a path and evaluating the path as a script are two ways into a value. The one looks
for each name on the class of the value at hand, the other on its base classes, too; the one
gives what it finds, the other a clone. As long as the classes at hand declare the names, both go
the same way, and they end in front of the same missing value. They part only where a class does
not declare a name and one of its base classes does.

Results:
* `Access.declared_cases`: what a declared field is, and why there is none.
* `Evaluation.fieldSpot?_of_own`, `Evaluation.fieldSpot?_of_undeclared`: scripts find the fields
  that the class declares, and otherwise none or those of a base class.
* `Evaluation.restricts_follow`: following names, and evaluating the same names as fields.
* `get_restricts_reflect`: the same for whole paths and scripts, as texts.
-/

namespace ObjectPath

/-! ## One name -/

/-- A declared field lies inside the value behind the optional layers; there is none if a layer
    has no payload, or if the class or the value has no such field. -/
theorem Access.declared_cases (S : Schema) (script : String) (v : Value) (name : String) :
    (∃ ty, v.seeThrough = .error ty ∧
      declared S script v name = .error (.nullTarget ty.path script)) ∨
    (∃ here, v.seeThrough = .ok here ∧
      ((S.classOf here.value.ty).field? name = none ∨ S.field? here.value name = none) ∧
      declared S script v name = .error (.memberNotFound here.value.ty.path name script)) ∨
    ∃ here inside member, v.seeThrough = .ok here ∧
      (S.classOf here.value.ty).field? name = some member ∧
      S.field? here.value name = some inside ∧
      declared S script v name = .ok (here.within inside) := by
  unfold declared
  cases hsee : v.seeThrough with
  | error ty => exact .inl ⟨ty, rfl, rfl⟩
  | ok here =>
    refine .inr ?_
    cases hclass : (S.classOf here.value.ty).field? name with
    | none => exact .inl ⟨here, rfl, .inl hclass, by simp [hclass]⟩
    | some member =>
      cases hfield : S.field? here.value name with
      | none => exact .inl ⟨here, rfl, .inr hfield, by simp [hclass, hfield]⟩
      | some inside => exact .inr ⟨here, inside, member, rfl, hclass, hfield, by simp [hclass, hfield]⟩

theorem Access.follow_of_error {S : Schema} {script name : String} {v : Value} {e : ScriptError}
    (h : declared S script v name = .error e) (names : List String) :
    follow S script (name :: names) v = .error e := by
  rw [follow, h]
  rfl

theorem Access.follow_of_ok {S : Schema} {script name : String} {v : Value} {field : Spot}
    (h : declared S script v name = .ok field) (names : List String) :
    follow S script (name :: names) v = (follow S script names field.value).map field.within := by
  rw [follow, h]
  simp only [bind, Except.bind]
  cases follow S script names field.value <;> rfl

namespace Evaluation

variable {E : Evaluation}

/-- A field that the class itself declares is not looked for further up. -/
theorem fieldSpot?_of_own {v : Value} {name : String} {member : Member}
    (hown : (E.schema.classOf v.ty).field? name = some member) :
    E.fieldSpot? v name = E.schema.field? v name := by
  have hfound : E.schema.resolveField v.ty name = some ⟨v.ty, 0, member⟩ :=
    Schema.findUp_of_own hown
  rw [fieldSpot?_eq, hfound, Option.bind_some, Schema.fieldUp?_zero]

/-- Where there is no declared field, a script finds none, or one of a base class. -/
theorem fieldSpot?_of_undeclared {v : Value} {name : String}
    (h : (E.schema.classOf v.ty).field? name = none ∨ E.schema.field? v name = none) :
    E.fieldSpot? v name = none ∨ ∃ owner ∈ (E.schema.ancestors v.ty).tail,
      ((E.schema.classOf owner).field? name).isSome := by
  cases hown : (E.schema.classOf v.ty).field? name with
  | some member =>
    have hfield : E.schema.field? v name = none := h.resolve_left (by simp [hown])
    exact .inl ((fieldSpot?_of_own hown).trans hfield)
  | none =>
    have hcases : E.schema.resolveField v.ty name = none ∨
        ∃ owner ∈ (E.schema.ancestors v.ty).tail,
          ((E.schema.classOf owner).field? name).isSome :=
      Schema.findUp_cases_of_not_own hown
    refine hcases.imp_left fun hnone => ?_
    rw [fieldSpot?_eq, hnone, Option.bind_none]

/-! ## All names -/

/-- What reading at a path says about evaluating the path as a script: a clone of what is read, and
    the same target as before; the same missing value; or the same unknown member, unless a base
    class of the class at hand declares it. -/
structure Restricts (E : Evaluation) (target : Value) (read : Except ScriptError Value)
    (outcome : Outcome) : Prop where
  value : ∀ v, read = .ok v → outcome.target = target ∧ ∃ cls member,
    outcome.result = (E.schema.clone v).mapError (.notCloneable cls member E.source)
  null : ∀ cls script, read = .error (.nullTarget cls script) →
    outcome.result = .error (.nullTarget cls E.source)
  unknown : ∀ cls member script, read = .error (.memberNotFound cls member script) →
    outcome.result = .error (.memberNotFound cls member E.source) ∨
      ∃ here : Spot, here.In target ∧ here.value.ty.path = cls ∧
        ∃ owner ∈ (E.schema.ancestors here.value.ty).tail,
          ((E.schema.classOf owner).field? member).isSome

/-- The way inside a field is part of the way from the outside. -/
theorem Restricts.within {target : Value} {field : Spot} {read : Except ScriptError Value}
    {inner : Outcome} (h : E.Restricts field.value read inner) (hin : field.In target)
    (log : List LogEntry) :
    E.Restricts target read ⟨inner.result, target.put field.place inner.target, log⟩ := by
  refine ⟨?_, h.null, ?_⟩
  · intro v hv
    obtain ⟨hkept, hresult⟩ := h.value v hv
    refine ⟨?_, hresult⟩
    rw [hkept]
    exact Value.put_at? hin
  · intro cls member script hunknown
    refine (h.unknown cls member script hunknown).imp_right ?_
    rintro ⟨here, hhere, hbase⟩
    exact ⟨field.within here, .within hin hhere, hbase⟩

theorem restricts_of_null {target : Value} {ty : Ty} (hsee : target.seeThrough = .error ty)
    (first : PlacedSegment) (rest : List PlacedSegment) :
    E.Restricts target (.error (.nullTarget ty.path E.source))
      (E.step (first :: rest) target none) := by
  refine ⟨by simp, ?_, by simp⟩
  rintro cls script ⟨⟩
  simp [step, hsee]

theorem restricts_of_undeclared {target : Value} {here : Spot} {first : PlacedSegment}
    {name : String} (hsee : target.seeThrough = .ok here) (hfirst : first.segment = .field name)
    (h : (E.schema.classOf here.value.ty).field? name = none ∨
      E.schema.field? here.value name = none) (rest : List PlacedSegment) :
    E.Restricts target (.error (.memberNotFound here.value.ty.path name E.source))
      (E.step (first :: rest) target none) := by
  refine ⟨by simp, by simp, ?_⟩
  rintro cls member script ⟨⟩
  rcases fieldSpot?_of_undeclared h with hspot | hbase
  · rw [step_unknownField hsee hfirst hspot]
    exact .inl rfl
  · exact .inr ⟨here, Value.seeThrough_in hsee, rfl, hbase⟩

theorem restricts_of_last {target : Value} {here inside : Spot} {first : PlacedSegment}
    {name : String} (hsee : target.seeThrough = .ok here) (hfirst : first.segment = .field name)
    (hspot : E.fieldSpot? here.value name = some inside) :
    E.Restricts target (.ok inside.value) (E.step [first] target none) := by
  rw [step_field hsee hfirst hspot]
  refine ⟨?_, by simp, by simp⟩
  rintro v ⟨⟩
  exact ⟨put_field hsee hspot, here.value.ty.path, name, rfl⟩

/-- The induction follows the names. Where a name is declared, both go on in the same field; where
    it is not, reading stops, and the script does so, too, unless it finds the name further up. -/
theorem restricts_follow {names : List String} (hne : names ≠ []) {segments : List PlacedSegment}
    (hnames : segments.map (·.segment) = names.map .field) (target : Value) :
    E.Restricts target ((Access.follow E.schema E.source names target).map (·.value))
      (E.step segments target none) := by
  induction names generalizing segments target with
  | nil => exact absurd rfl hne
  | cons name names ih =>
    obtain ⟨first, rest, rfl, hfirst, hrest⟩ := List.map_eq_cons_iff.1 hnames
    rcases Access.declared_cases E.schema E.source target name with ⟨ty, hsee, hdeclared⟩ |
      ⟨here, hsee, hundeclared, hdeclared⟩ |
      ⟨here, inside, member, hsee, hclass, hfield, hdeclared⟩
    · rw [Access.follow_of_error hdeclared]
      exact restricts_of_null hsee first rest
    · rw [Access.follow_of_error hdeclared]
      exact restricts_of_undeclared hsee hfirst hundeclared rest
    · have hspot : E.fieldSpot? here.value name = some inside :=
        (fieldSpot?_of_own hclass).trans hfield
      have hin : (here.within inside).In target :=
        .within (Value.seeThrough_in hsee) (in_of_fieldSpot? hspot)
      have hread (found : Except ScriptError Spot) :
          (found.map (here.within inside).within).map (·.value) = found.map (·.value) := by
        cases found <;> rfl
      rw [Access.follow_of_ok hdeclared, hread]
      cases names with
      | nil =>
        obtain rfl : rest = [] := List.map_eq_nil_iff.1 hrest
        show E.Restricts target (.ok inside.value) _
        exact restricts_of_last hsee hfirst hspot
      | cons next others =>
        have hmore : rest ≠ [] := by
          rintro rfl
          cases hrest
        have hinner : E.Restricts (here.within inside).value _ _ :=
          ih (by simp) hrest inside.value
        rw [step_hop hmore hsee hfirst hspot]
        exact hinner.within hin _

end Evaluation

/-! ## Paths and scripts as texts -/

/-- The names on the way to a value are names of declared fields. -/
theorem Access.declared_of_follow {S : Schema} {script : String} {names : List String}
    {target : Value} {field : Spot} (h : follow S script names target = .ok field) :
    ∀ name ∈ names, ∃ here : Spot, here.In target ∧
      ∃ member ∈ (S.classOf here.value.ty).fields, member.name = name := by
  induction names generalizing target field with
  | nil => simp
  | cons first names ih =>
    obtain ⟨field, rest, hdeclared, hrest, -⟩ := of_follow_cons h
    obtain ⟨here, -, member, hsee, hclass, -, -⟩ := of_declared hdeclared
    intro name hname
    rcases List.mem_cons.1 hname with rfl | hname
    · have hmember := List.mem_reverse.1 (List.mem_of_find?_eq_some hclass)
      exact ⟨here, Value.seeThrough_in hsee, member, hmember, by simpa using List.find?_some hclass⟩
    · obtain ⟨there, hthere, hnamed⟩ := ih hrest name hname
      exact ⟨field.within there, .within (in_of_declared hdeclared) hthere, hnamed⟩

/-- The classes in the value name their fields by identifiers. -/
def Schema.NamesByIdentifiers (S : Schema) (target : Value) : Prop :=
  ∀ p part, target.at? p = some part →
    ∀ member ∈ (S.classOf part.ty).fields, Text.isIdentifier member.name.toList = true

/-- If the derived classes name their fields by identifiers, that is true of well-typed values. -/
theorem Schema.WellTyped.namesByIdentifiers {S : Schema}
    (h : ∀ id, S.IsDerived id →
      ∀ member ∈ (S.decl id).fields, Text.isIdentifier member.name.toList = true)
    {target : Value} (ht : S.WellTyped target) : S.NamesByIdentifiers target := by
  intro p part hpart member hmember
  have hfits := (wellTyped_iff.1 ht).at? hpart
  cases part with
  | object id slots => exact h id hfits.here.1 member hmember
  | _ => simp [Value.ty, classOf] at hmember

/-- A path of identifiers is evaluated as the chain of its fields. -/
theorem Reflector.reflect_of_path (R : Reflector) (target : Value) {path : String}
    (hpath : ∀ name ∈ Text.parts '.' path, Text.isIdentifier name.toList = true)
    (terminal : Option Value) :
    ∃ segments, segments.map (·.segment) = (Text.parts '.' path).map .field ∧
      R.reflect target path [] terminal =
        (R.evaluation ⟨path, segments⟩ (.ofValues [])).evaluate target terminal := by
  obtain ⟨segments, hparse, hnames⟩ := Script.parse_path hpath
  have hcompile : R.compile target.ty.path path = .ok ⟨path, segments⟩ := by
    rw [compile, R.options.prepare_path hpath, hparse, Except.mapError]
  exact ⟨segments, hnames, by rw [reflect, run, hcompile]⟩

theorem Reflector.restricts_reflect (R : Reflector) (target : Value) {path : String}
    (hpath : ∀ name ∈ Text.parts '.' path, Text.isIdentifier name.toList = true) :
    ∃ script : Script, script.source = path ∧
      (R.evaluation script (.ofValues [])).Restricts target (Access.get R.schema target path)
        (R.reflect target path [] none) := by
  obtain ⟨segments, hnames, hreflect⟩ := R.reflect_of_path target hpath none
  refine ⟨⟨path, segments⟩, rfl, ?_⟩
  have hstep := Evaluation.restricts_follow (E := R.evaluation ⟨path, segments⟩ (.ofValues []))
    (Text.parts_ne_nil '.' path) hnames target
  rw [hreflect, Evaluation.evaluate_of_attached (by simp)]
  exact ⟨hstep.value, hstep.null, hstep.unknown⟩

/-- Reading at a path gives what evaluating the path as a script gives a clone of, and the script
    does not change the target. Where a path of identifiers ends at a missing value, the script
    fails for the same class. Where it ends at an unknown member, the script fails in the same
    way, or a base class of the class at hand declares the member. -/
theorem get_restricts_reflect (R : Reflector) {target : Value}
    (hfields : R.schema.NamesByIdentifiers target) (path : String) :
    (∀ v, Access.get R.schema target path = .ok v →
      (R.reflect target path [] none).target = target ∧
        ∃ cls member, (R.reflect target path [] none).result =
          (R.schema.clone v).mapError (.notCloneable cls member path)) ∧
    ((∀ name ∈ Text.parts '.' path, Text.isIdentifier name.toList = true) →
      (∀ cls script, Access.get R.schema target path = .error (.nullTarget cls script) →
        (R.reflect target path [] none).result = .error (.nullTarget cls path)) ∧
      ∀ cls member script,
        Access.get R.schema target path = .error (.memberNotFound cls member script) →
        (R.reflect target path [] none).result = .error (.memberNotFound cls member path) ∨
          ∃ here : Spot, here.In target ∧ here.value.ty.path = cls ∧
            ∃ owner ∈ (R.schema.ancestors here.value.ty).tail,
              ((R.schema.classOf owner).field? member).isSome) := by
  constructor
  · intro v hread
    obtain ⟨field, hfollow, -⟩ := Except.map_eq_ok_iff.1 hread
    -- the path may be any text, but what was followed are names of declared fields
    have hpath : ∀ name ∈ Text.parts '.' path, Text.isIdentifier name.toList = true := by
      intro name hname
      obtain ⟨here, hhere, member, hmember, rfl⟩ := Access.declared_of_follow hfollow name hname
      exact hfields here.place here.value hhere member hmember
    obtain ⟨script, rfl, hrestricts⟩ := R.restricts_reflect target hpath
    exact hrestricts.value v hread
  · intro hpath
    obtain ⟨script, rfl, hrestricts⟩ := R.restricts_reflect target hpath
    exact ⟨hrestricts.null, hrestricts.unknown⟩

namespace Sample

/-- The gallery as it is usually used. -/
def galleryReflector : Reflector := ⟨gallery, .standard, none⟩

theorem namesByIdentifiers_gallery : gallery.NamesByIdentifiers Gallery.puppy.initial := by
  have hclasses : ∀ c ∈ gallery.classes, ∀ member ∈ c.fields,
      Text.isIdentifier member.name.toList = true := by decide +kernel
  refine Schema.WellTyped.namesByIdentifiers ?_ (by decide +kernel)
  intro id _ member hmember
  rcases gallery.decl_mem_or id with hdecl | hnone
  · exact hclasses _ hdecl member hmember
  · rw [hnone] at hmember
    cases hmember

end Sample

/-- A puppy has a name of its own, which it may be without; the owner is the dog's. -/
theorem name_and_owner_of_puppy :
    (∃ cls member, (Sample.galleryReflector.reflect Gallery.puppy.initial "name" [] none).result =
      (gallery.clone (.absent .string)).mapError (.notCloneable cls member "name")) ∧
    ((Sample.galleryReflector.reflect Gallery.puppy.initial "owner" [] none).result =
        .error (.memberNotFound "zoo::Puppy" "owner" "owner") ∨
      ∃ here : Spot, here.In Gallery.puppy.initial ∧ here.value.ty.path = "zoo::Puppy" ∧
        ∃ owner ∈ (gallery.ancestors here.value.ty).tail,
          ((gallery.classOf owner).field? "owner").isSome) := by
  obtain ⟨hname, -⟩ :=
    get_restricts_reflect Sample.galleryReflector Sample.namesByIdentifiers_gallery "name"
  obtain ⟨-, howner⟩ :=
    get_restricts_reflect Sample.galleryReflector Sample.namesByIdentifiers_gallery "owner"
  obtain ⟨-, hunknown⟩ := howner (by decide +kernel)
  exact ⟨(hname (.absent .string) (by decide +kernel)).2,
    hunknown "zoo::Puppy" "owner" "owner" (by decide +kernel)⟩

end ObjectPath
