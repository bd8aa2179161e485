import ObjectPath.Access
import ObjectPath.Gallery
import ObjectPath.Proofs.Quotation

/-!
# Optional layers are transparent

A value inside layers of present optional values answers like the value itself. Scripts and
field paths reach the same fields and methods through the layers, fail in the same way, and put
what they change back into the same layers. A missing optional value inside layers is reported
as what it is: the class of the failure is the class of the layer that has no payload.

Results:
* `Evaluation.step_layered`: evaluating segments through layers.
* `Access.get_layered`, `Access.assign_layered`: field access through layers.
* `layers_are_transparent`: scripts, reads and writes, on present and on missing values.
-/

namespace ObjectPath

/-! ## Layers -/

namespace Value

/-- The value inside the given number of layers of present optional values. -/
def layered : Nat → Value → Value
  | 0, v => v
  | k + 1, v => .present (layered k v)

/-- The payload of a present optional value, as a spot of it. -/
def payloadSpot (payload : Value) : Spot := ⟨[.payload], payload⟩

theorem seeThrough_present (payload : Value) :
    (present payload).seeThrough = payload.seeThrough.map (payloadSpot payload).within := rfl

/-- Writing inside the payload is writing inside the layer. -/
theorem put_present (payload new : Value) (spot : Spot) :
    (present payload).put ((payloadSpot payload).within spot).place new =
      .present (payload.put spot.place new) := rfl

end Value

/-! ## Scripts -/

/-- The same outcome, for a target inside layers. -/
def Outcome.layered (k : Nat) (o : Outcome) : Outcome := { o with target := o.target.layered k }

namespace Evaluation

variable {E : Evaluation}

/-- One layer: every segment looks at the payload, and what it changes stays in the layer. -/
theorem step_present (E : Evaluation) (segments : List PlacedSegment) (payload : Value)
    (terminal : Option Value) :
    E.step segments (.present payload) terminal =
      (E.step segments payload terminal).layered 1 := by
  cases hsee : payload.seeThrough with
  | error ty =>
    cases segments <;>
      simp [step, Value.seeThrough_present, hsee, Except.map, Outcome.layered, Value.layered]
  | ok here =>
    have hthrough : (Value.present payload).seeThrough =
        .ok ((Value.payloadSpot payload).within here) := by
      rw [Value.seeThrough_present, hsee]
      rfl
    cases segments with
    | nil => simp [step, hsee, hthrough, Outcome.layered, Value.layered]
    | cons first rest =>
      cases hseg : first.segment with
      | field name =>
        cases hspot : E.fieldSpot? here.value name with
        | none => simp [step, hsee, hthrough, hseg, hspot, Outcome.layered, Value.layered]
        | some inside =>
          simp only [step, hsee, hthrough, hseg, Spot.value_within, hspot, Spot.within_within,
            Value.put_present]
          split <;> rfl
      | call name params =>
        simp only [step, hsee, hthrough, hseg, Spot.value_within, Value.put_present]
        cases (E.call here.value.ty (some here.value) name params).result with
        | error e => rfl
        | ok value =>
          simp only
          split <;> rfl

theorem step_layered (E : Evaluation) (segments : List PlacedSegment) (k : Nat) (v : Value)
    (terminal : Option Value) :
    E.step segments (v.layered k) terminal = (E.step segments v terminal).layered k := by
  induction k with
  | zero => rfl
  | succ k ih =>
    rw [Value.layered, step_present, ih]
    rfl

/-- Of an evaluation, only the class that a detached assignment is reported for shows that there
    are layers. -/
theorem evaluate_layered (E : Evaluation) (k : Nat) (v : Value) (terminal : Option Value) :
    (E.evaluate (v.layered k) terminal).result =
        (E.evaluate v terminal).result.mapError (·.detachedAt (v.layered k).ty.path) ∧
      (E.evaluate (v.layered k) terminal).target = (E.evaluate v terminal).target.layered k := by
  have hattached (h : terminal.isSome → detachedBy? E.script.segments = none) :
      (E.evaluate (v.layered k) terminal).result =
          (E.evaluate v terminal).result.mapError (·.detachedAt (v.layered k).ty.path) ∧
        (E.evaluate (v.layered k) terminal).target =
          (E.evaluate v terminal).target.layered k := by
    rw [evaluate_of_attached h, evaluate_of_attached h, step_layered]
    have hrun := E.run_step E.script.segments v terminal
    exact ⟨(hrun.detachedAt_of_error _).symm, rfl⟩
  cases terminal with
  | none => exact hattached (by simp)
  | some new =>
    cases hdetached : detachedBy? E.script.segments with
    | none => exact hattached fun _ => hdetached
    | some call =>
      rw [evaluate_of_detached hdetached, evaluate_of_detached hdetached]
      exact ⟨rfl, rfl⟩

theorem step_absent (E : Evaluation) (segments : List PlacedSegment) (inner : Ty)
    (terminal : Option Value) :
    E.step segments (.absent inner) terminal =
      ⟨.error (.nullTarget (Ty.optional inner).path E.source), .absent inner, []⟩ := by
  cases segments <;> rfl

/-- On a missing value, an evaluation that is not rejected fails before its first segment. -/
theorem evaluate_absent {inner : Ty} {terminal : Option Value}
    (h : ∀ cls member, (E.evaluate (.absent inner) terminal).result ≠
      .error (.detachedAssignment cls member E.source)) :
    (E.evaluate (.absent inner) terminal).result =
        .error (.nullTarget (Ty.optional inner).path E.source) ∧
      (E.evaluate (.absent inner) terminal).target = .absent inner := by
  rw [evaluate_of_attached (attached_of_result h), step_absent]
  exact ⟨rfl, rfl⟩

end Evaluation

/-! ## Field access -/

namespace Access

variable {S : Schema}

theorem declared_present (S : Schema) (script : String) (payload : Value) (name : String) :
    declared S script (.present payload) name =
      (declared S script payload name).map (Value.payloadSpot payload).within := by
  unfold declared
  rw [Value.seeThrough_present]
  cases payload.seeThrough with
  | error ty => rfl
  | ok here =>
    simp only [Except.map, Spot.value_within]
    cases (S.classOf here.value.ty).field? name with
    | none => rfl
    | some member =>
      cases S.field? here.value name with
      | none => rfl
      | some inside => simp only [Spot.within_within]

theorem follow_present (S : Schema) (script : String) {names : List String} (hnames : names ≠ [])
    (payload : Value) :
    follow S script names (.present payload) =
      (follow S script names payload).map (Value.payloadSpot payload).within := by
  cases names with
  | nil => exact absurd rfl hnames
  | cons name names =>
    simp only [follow, declared_present]
    cases declared S script payload name with
    | error e => rfl
    | ok field =>
      simp only [Except.map, bind, Except.bind, Spot.value_within]
      cases follow S script names field.value with
      | error e => rfl
      | ok rest => simp only [Spot.within_within]

theorem get_present (S : Schema) (payload : Value) (path : String) :
    get S (.present payload) path = get S payload path := by
  unfold get
  rw [follow_present S path (Text.parts_ne_nil '.' path)]
  cases follow S path (Text.parts '.' path) payload <;> rfl

/-- The same write, to a target inside layers. -/
def Written.layered (k : Nat) (w : Written) : Written := { w with target := w.target.layered k }

theorem write_present (S : Schema) (script : String) (payload : Value) (name : String)
    (new : Value) :
    write S script (.present payload) name new =
      (write S script payload name new).layered 1 := by
  unfold write
  rw [declared_present]
  cases hfield : declared S script payload name with
  | error e => rfl
  | ok field =>
    cases hsee : payload.seeThrough with
    | error ty => simp [declared, hsee] at hfield
    | ok here =>
      simp only [Except.map, Value.seeThrough_present, hsee, Spot.value_within, Value.put_present]
      rfl

theorem assign_present (S : Schema) (payload : Value) (path : String) (new : Value) :
    assign S (.present payload) path new = (assign S payload path new).layered 1 := by
  unfold assign
  simp only
  by_cases hnames : Text.frontParts '.' path = []
  · -- a single name: the owner of the field is the target itself
    simp only [hnames, follow, Spot.whole, write_present]
    rfl
  · rw [follow_present S path hnames]
    cases follow S path (Text.frontParts '.' path) payload with
    | error e => rfl
    | ok parent =>
      simp only [Except.map, Spot.value_within, Value.put_present]
      rfl

theorem get_layered (S : Schema) (k : Nat) (v : Value) (path : String) :
    get S (v.layered k) path = get S v path := by
  induction k with
  | zero => rfl
  | succ k ih => rw [Value.layered, get_present, ih]

theorem assign_layered (S : Schema) (k : Nat) (v : Value) (path : String) (new : Value) :
    assign S (v.layered k) path new = (assign S v path new).layered k := by
  induction k with
  | zero => rfl
  | succ k ih =>
    rw [Value.layered, assign_present, ih]
    rfl

theorem follow_absent (S : Schema) (script : String) {names : List String} (hnames : names ≠ [])
    (inner : Ty) :
    follow S script names (.absent inner) =
      .error (.nullTarget (Ty.optional inner).path script) := by
  cases names with
  | nil => exact absurd rfl hnames
  | cons name names => rfl

theorem get_absent (S : Schema) (inner : Ty) (path : String) :
    get S (.absent inner) path = .error (.nullTarget (Ty.optional inner).path path) := by
  rw [get, follow_absent S path (Text.parts_ne_nil '.' path)]
  rfl

theorem assign_absent (S : Schema) (inner : Ty) (path : String) (new : Value) :
    assign S (.absent inner) path new =
      ⟨.error (.nullTarget (Ty.optional inner).path path), .absent inner⟩ := by
  unfold assign
  simp only
  by_cases hnames : Text.frontParts '.' path = []
  · rw [hnames]
    rfl
  · rw [follow_absent S path hnames]

end Access

/-! ## All layers at once -/

/-- Any number of layers makes no difference to a script, whatever its arguments and the value to
    assign: what it gives or how it fails is the same, apart from the class that a detached
    assignment is reported for, and the target ends up in the same layers. A missing value inside
    layers makes every script that is not rejected fail for the class of that missing value, and
    stays. Reading and writing at a path do the same. -/
theorem layers_are_transparent (k : Nat) :
    (∀ (E : Evaluation) (v : Value) (terminal : Option Value),
      (E.evaluate (v.layered k) terminal).result =
          (E.evaluate v terminal).result.mapError (·.detachedAt (v.layered k).ty.path) ∧
        (E.evaluate (v.layered k) terminal).target = (E.evaluate v terminal).target.layered k) ∧
    (∀ (E : Evaluation) (inner : Ty) (terminal : Option Value),
      (∀ cls member, (E.evaluate ((Value.absent inner).layered k) terminal).result ≠
        .error (.detachedAssignment cls member E.source)) →
      (E.evaluate ((Value.absent inner).layered k) terminal).result =
          .error (.nullTarget (Ty.optional inner).path E.source) ∧
        (E.evaluate ((Value.absent inner).layered k) terminal).target =
          (Value.absent inner).layered k) ∧
    (∀ (S : Schema) (v : Value) (path : String),
      Access.get S (v.layered k) path = Access.get S v path ∧
        ∀ new, (Access.assign S (v.layered k) path new).result =
            (Access.assign S v path new).result ∧
          (Access.assign S (v.layered k) path new).target =
            (Access.assign S v path new).target.layered k) ∧
    (∀ (S : Schema) (inner : Ty) (path : String),
      Access.get S ((Value.absent inner).layered k) path =
          .error (.nullTarget (Ty.optional inner).path path) ∧
        ∀ new, (Access.assign S ((Value.absent inner).layered k) path new).result =
            .error (.nullTarget (Ty.optional inner).path path) ∧
          (Access.assign S ((Value.absent inner).layered k) path new).target =
            (Value.absent inner).layered k) := by
  refine ⟨fun E v terminal => E.evaluate_layered k v terminal, ?missing, ?access, ?missingAccess⟩
  case missing =>
    intro E inner terminal hrejected
    obtain ⟨hresult, htarget⟩ := E.evaluate_layered k (.absent inner) terminal
    have hbare : ∀ cls member, (E.evaluate (.absent inner) terminal).result ≠
        .error (.detachedAssignment cls member E.source) := by
      intro cls member hdetached
      rw [hdetached] at hresult
      exact hrejected _ _ hresult
    obtain ⟨hnull, hkept⟩ := Evaluation.evaluate_absent hbare
    rw [hresult, htarget, hnull, hkept]
    exact ⟨rfl, rfl⟩
  case access =>
    intro S v path
    refine ⟨Access.get_layered S k v path, fun new => ?_⟩
    rw [Access.assign_layered]
    exact ⟨rfl, rfl⟩
  case missingAccess =>
    intro S inner path
    refine ⟨by rw [Access.get_layered, Access.get_absent], fun new => ?_⟩
    rw [Access.assign_layered, Access.assign_absent]
    exact ⟨rfl, rfl⟩

namespace Sample

/-- The script for the number of a home in the gallery. -/
def homeNumberScript : Evaluation :=
  ⟨gallery, .typeAware, ⟨"number", [⟨0, .field "number"⟩]⟩, .empty⟩

/-- No home, inside two layers. -/
def missingHome : Value := (Value.absent Gallery.home.objects).layered 2

end Sample

/-- A number is assigned to a home that is missing inside two layers. -/
theorem missing_home_is_reported :
    (Sample.homeNumberScript.evaluate Sample.missingHome (some (.int .u16 7))).result =
        .error (.nullTarget "core::option::Option<zoo::Home>" "number") ∧
      (Sample.homeNumberScript.evaluate Sample.missingHome (some (.int .u16 7))).target =
        Sample.missingHome := by
  obtain ⟨-, hmissing, -⟩ := layers_are_transparent 2
  have hattached : ∀ cls member,
      (Sample.homeNumberScript.evaluate Sample.missingHome (some (.int .u16 7))).result ≠
        .error (.detachedAssignment cls member "number") := by
    intro cls member h
    cases h
  exact hmissing Sample.homeNumberScript Gallery.home.objects (some (.int .u16 7)) hattached

end ObjectPath
