import ObjectPath.Gallery
import ObjectPath.Proofs.Atomicity
import ObjectPath.Proofs.Quotation

/-!
# Scripts in two parts

A script is evaluated part by part. Fields lead to a part of the target, and what follows them is
evaluated on that part, in its place. A call gives a value of its own, and what follows it is
evaluated on that value: nothing of it reaches the target.

Results:
* `step_append_of_follow?`, `step_append_of_follow?_eq_none`: what follows fields that lead
  somewhere, or nowhere.
* `fields_focus_in_place`: a script that begins with fields, compared with its two parts.
* `step_append_of_call`: what follows a call.
* `calls_detach_what_follows`: a script with a call in it, compared with its two parts.
-/

namespace ObjectPath

/-- The failure to go on from a value to one of its fields. -/
def ScriptError.OfHop : ScriptError → Prop
  | memberNotFound .. | nullTarget .. => True
  | _ => False

/-- The script is one script followed by another. -/
def Script.Joins (script front back : Script) : Prop := script.chain = front.chain ++ back.chain

theorem Script.Joins.map_segments {script front back : Script}
    (h : script.Joins front back) :
    script.segments.map (·.segment) = (front.segments ++ back.segments).map (·.segment) := by
  rw [List.map_append]
  exact h

/-- The segments up to the first call, with the call: those that are evaluated on the target. -/
def attached : List Segment → List Segment
  | [] => []
  | s :: rest => if s.isCall then [s] else s :: attached rest

theorem attached_eq_nil_iff {segments : List Segment} : attached segments = [] ↔ segments = [] := by
  cases segments with
  | nil => simp [attached]
  | cons s rest => cases hcall : s.isCall <;> simp [attached, hcall]

theorem attached_cons_eq_cons_iff {s t : Segment} {rest others : List Segment} :
    attached (s :: rest) = attached (t :: others) ↔
      s = t ∧ (s.isCall = false → attached rest = attached others) := by
  by_cases hst : s = t
  · subst hst
    cases hcall : s.isCall <;> simp [attached, hcall]
  · cases hs : s.isCall <;> cases ht : t.isCall <;> simp [attached, hs, ht, hst]

namespace Evaluation

variable {E : Evaluation}

/-! ## Behind fields -/

/-- The part of the value that the field names lead to, each from the field before, through
    optional layers and base objects. -/
def follow? (E : Evaluation) : List String → Value → Option Spot
  | [], v => some (.whole v)
  | name :: names, v =>
    match v.seeThrough with
    | .error _ => none
    | .ok here => do
      let inside ← E.fieldSpot? here.value name
      let rest ← E.follow? names inside.value
      some ((here.within inside).within rest)

theorem follow?_cons_of_seeThrough {v : Value} {here : Spot} (hsee : v.seeThrough = .ok here)
    (name : String) (names : List String) :
    E.follow? (name :: names) v = (E.fieldSpot? here.value name).bind fun inside =>
      (E.follow? names inside.value).map (here.within inside).within := by
  cases hspot : E.fieldSpot? here.value name with
  | none => simp [follow?, hsee, hspot]
  | some inside => cases hrest : E.follow? names inside.value <;> simp [follow?, hsee, hspot, hrest]

theorem in_of_follow? {names : List String} {v : Value} {spot : Spot}
    (h : E.follow? names v = some spot) : spot.In v := by
  induction names generalizing v spot with
  | nil =>
    cases h
    exact .whole v
  | cons name names ih =>
    cases hsee : v.seeThrough with
    | error ty => simp [follow?, hsee] at h
    | ok here =>
      rw [follow?_cons_of_seeThrough hsee, Option.bind_eq_some_iff] at h
      obtain ⟨inside, hspot, h⟩ := h
      obtain ⟨rest, hrest, rfl⟩ := Option.map_eq_some_iff.1 h
      exact .within (.within (Value.seeThrough_in hsee) (in_of_fieldSpot? hspot)) (ih hrest)

/-- Fields that lead to a part of the target leave the rest of the script to be evaluated on that
    part, in its place. -/
theorem step_append_of_follow? {front back : List PlacedSegment}
    (hfields : ∀ s ∈ front, s.segment.isCall = false) (hback : back ≠ []) {target : Value}
    {spot : Spot} (h : E.follow? (front.map (·.segment.name)) target = some spot)
    (terminal : Option Value) :
    (E.step (front ++ back) target terminal).result = (E.step back spot.value terminal).result ∧
      (E.step (front ++ back) target terminal).target =
        target.put spot.place (E.step back spot.value terminal).target := by
  induction front generalizing target spot with
  | nil =>
    cases h
    exact ⟨rfl, rfl⟩
  | cons first front ih =>
    obtain ⟨hfirst, hfront⟩ := List.forall_mem_cons.1 hfields
    have hseg := Segment.eq_field_of_isCall hfirst
    cases hsee : target.seeThrough with
    | error ty => simp [follow?, hsee] at h
    | ok here =>
      rw [List.map_cons, follow?_cons_of_seeThrough hsee, Option.bind_eq_some_iff] at h
      obtain ⟨inside, hspot, h⟩ := h
      obtain ⟨rest, hrest, rfl⟩ := Option.map_eq_some_iff.1 h
      obtain ⟨hresult, htarget⟩ := ih hfront hrest
      have hin : (here.within inside).In target :=
        .within (Value.seeThrough_in hsee) (in_of_fieldSpot? hspot)
      rw [List.cons_append, step_hop (by simp [hback]) hsee hseg hspot]
      refine ⟨hresult, ?_⟩
      calc target.put (here.within inside).place (E.step (front ++ back) inside.value terminal).target
          = target.put (here.within inside).place
              (inside.value.put rest.place (E.step back rest.value terminal).target) := by
            rw [htarget]
        _ = target.put ((here.within inside).within rest).place
              (E.step back rest.value terminal).target := (hin.put_within rest _).symm

/-- Fields that lead nowhere end the script, whatever follows them and whatever is to be
    assigned. -/
theorem step_append_of_follow?_eq_none {front : List PlacedSegment}
    (hfields : ∀ s ∈ front, s.segment.isCall = false) {target : Value}
    (h : E.follow? (front.map (·.segment.name)) target = none) :
    ∃ e : ScriptError, e.OfHop ∧ ∀ back terminal,
      (E.step (front ++ back) target terminal).result = .error e ∧
        (E.step (front ++ back) target terminal).target = target := by
  induction front generalizing target with
  | nil => simp [follow?] at h
  | cons first front ih =>
    obtain ⟨hfirst, hfront⟩ := List.forall_mem_cons.1 hfields
    have hseg := Segment.eq_field_of_isCall hfirst
    cases hsee : target.seeThrough with
    | error ty =>
      exact ⟨.nullTarget ty.path E.source, trivial, fun back terminal => by simp [step, hsee]⟩
    | ok here =>
      cases hspot : E.fieldSpot? here.value first.segment.name with
      | none =>
        refine ⟨E.unknown here.value.ty first.segment.name, trivial, fun back terminal => ?_⟩
        rw [List.cons_append, step_unknownField hsee hseg hspot]
        exact ⟨rfl, rfl⟩
      | some inside =>
        rw [List.map_cons, follow?_cons_of_seeThrough hsee, hspot, Option.bind_some,
          Option.map_eq_none_iff] at h
        obtain ⟨e, he, hall⟩ := ih hfront h
        have hne : front ≠ [] := by
          rintro rfl
          simp [follow?] at h
        refine ⟨e, he, fun back terminal => ?_⟩
        obtain ⟨hresult, htarget⟩ := hall back terminal
        rw [List.cons_append, step_hop (by simp [hne]) hsee hseg hspot, htarget]
        exact ⟨hresult, put_field hsee hspot⟩

theorem follow?_withScript (E : Evaluation) (script : Script) (names : List String) (v : Value) :
    (E.withScript script).follow? names v = E.follow? names v := by
  induction names generalizing v with
  | nil => rfl
  | cons name names ih =>
    cases hsee : v.seeThrough with
    | error ty => simp [follow?, hsee]
    | ok here =>
      rw [follow?_cons_of_seeThrough hsee, follow?_cons_of_seeThrough hsee, fieldSpot?_withScript]
      exact Option.bind_congr fun inside _ => by rw [ih]

/-- Whether an assignment is detached depends on the segments alone, and fields in front of them
    make no difference. -/
theorem detachedBy?_of_joins {segments front back : List PlacedSegment}
    (hjoin : segments.map (·.segment) = (front ++ back).map (·.segment))
    (hfields : ∀ s ∈ front, s.segment.isCall = false) (hback : back ≠ []) :
    detachedBy? segments = detachedBy? back := by
  have hchain (list : List PlacedSegment) : detachedBy? list =
      ((list.map (·.segment)).getLast?.bind fun last =>
        if last.isCall then none else (list.map (·.segment)).dropLast.find? (·.isCall)) := by
    unfold detachedBy?
    cases hlast : list.getLast? <;> simp [hlast, List.map_dropLast]
  have hback' : back.map (·.segment) ≠ [] := by simpa using hback
  have hnone : (front.map (·.segment)).find? (·.isCall) = none := by
    refine List.find?_eq_none.2 fun segment hsegment => ?_
    obtain ⟨s, hs, rfl⟩ := List.mem_map.1 hsegment
    simp [hfields s hs]
  rw [hchain, hchain, hjoin, List.map_append, List.getLast?_append_of_ne_nil _ hback',
    List.dropLast_append_of_ne_nil hback', List.find?_append, hnone, Option.none_or]

/-- The steps of a script that begins with fields, in terms of the script behind them. -/
theorem step_of_follow? {front back : Script} (hjoin : E.script.Joins front back)
    (hfields : ∀ s ∈ front.segments, s.segment.isCall = false) (hback : back.segments ≠ [])
    {target : Value} {spot : Spot} (h : E.follow? front.names target = some spot)
    (terminal : Option Value) :
    (E.step E.script.segments target terminal).result =
        ((E.withScript back).step back.segments spot.value terminal).result.mapError
          (·.quoting E.source) ∧
      (E.step E.script.segments target terminal).target =
        target.put spot.place
          ((E.withScript back).step back.segments spot.value terminal).target := by
  obtain ⟨hresult, htarget⟩ :=
    step_withScript (E.withScript back) E.script hjoin.map_segments target terminal
  obtain ⟨hresult', htarget'⟩ := step_append_of_follow? (E := E.withScript back) hfields hback
    ((E.follow?_withScript back _ _).trans h) terminal
  exact ⟨hresult.trans (by rw [hresult']; rfl), htarget.trans htarget'⟩

/-- A script that begins with fields that lead nowhere fails as the fields alone fail. -/
theorem step_of_follow?_eq_none {front back : Script} (hjoin : E.script.Joins front back)
    (hfields : ∀ s ∈ front.segments, s.segment.isCall = false) {target : Value}
    (h : E.follow? front.names target = none) (terminal : Option Value) :
    ∃ e : ScriptError, e.OfHop ∧
      (∀ other, ((E.withScript front).evaluate target other).result = .error e) ∧
      (E.step E.script.segments target terminal).result = .error (e.quoting E.source) ∧
      (E.step E.script.segments target terminal).target = target := by
  obtain ⟨e, he, hall⟩ := step_append_of_follow?_eq_none (E := E.withScript front) hfields
    ((E.follow?_withScript front _ _).trans h)
  obtain ⟨hresult, htarget⟩ :=
    step_withScript (E.withScript front) E.script hjoin.map_segments target terminal
  obtain ⟨hresult', htarget'⟩ := hall back.segments terminal
  refine ⟨e, he, fun other => ?_, hresult.trans (by rw [hresult']; rfl), htarget.trans htarget'⟩
  rw [evaluate_of_attached (E := E.withScript front) fun _ => detachedBy?_of_fields hfields]
  have hfront := (hall [] other).1
  rw [List.append_nil] at hfront
  exact hfront

/-- A script that begins with fields. If they lead from the target to one of its parts, the result
    is that of evaluating the rest of the script on that part, and the part becomes what that
    makes of it, in its place; only the script quoted, and the class for which a detached
    assignment is reported, are those of the whole. If the fields lead nowhere, the whole fails
    like the fields alone, unless it is rejected because its assignment is detached. -/
theorem fields_focus_in_place (E : Evaluation) {front back : Script}
    (hjoin : E.script.Joins front back)
    (hfields : ∀ s ∈ front.segments, s.segment.isCall = false) (hback : back.segments ≠ [])
    (target : Value) (terminal : Option Value) :
    (∀ spot, E.follow? front.names target = some spot →
      spot.In target ∧
      (E.evaluate target terminal).result =
        ((E.withScript back).evaluate spot.value terminal).result.mapError
          (fun e => (e.quoting E.source).detachedAt target.ty.path) ∧
      (E.evaluate target terminal).target =
        target.put spot.place ((E.withScript back).evaluate spot.value terminal).target) ∧
    (E.follow? front.names target = none →
      (∀ member, (E.evaluate target terminal).result ≠
        .error (.detachedAssignment target.ty.path member E.source)) →
      ∃ e : ScriptError, e.OfHop ∧
        (∀ other, ((E.withScript front).evaluate target other).result = .error e) ∧
        (E.evaluate target terminal).result = .error (e.quoting E.source) ∧
        (E.evaluate target terminal).target = target) := by
  have hdetached : detachedBy? E.script.segments = detachedBy? back.segments :=
    detachedBy?_of_joins hjoin.map_segments hfields hback
  refine ⟨fun spot hspot => ⟨in_of_follow? hspot, ?_⟩, fun hnone hnever => ?_⟩
  · by_cases hrejected : terminal.isSome ∧ detachedBy? back.segments ≠ none
    · obtain ⟨⟨new, rfl⟩, call, hcall⟩ :=
        hrejected.imp Option.isSome_iff_exists.1 Option.ne_none_iff_exists'.1
      rw [evaluate_of_detached (hdetached.trans hcall),
        evaluate_of_detached (E := E.withScript back) hcall]
      exact ⟨rfl, (Value.put_at? (in_of_follow? hspot)).symm⟩
    · have hattached : terminal.isSome → detachedBy? back.segments = none := by
        simpa using hrejected
      obtain ⟨hresult, htarget⟩ := step_of_follow? hjoin hfields hback hspot terminal
      rw [evaluate_of_attached (fun h => hdetached.trans (hattached h)),
        evaluate_of_attached (E := E.withScript back) hattached]
      refine ⟨?_, htarget⟩
      -- no step reports a detached assignment, so there is no class to change
      calc (E.step E.script.segments target terminal).result
          = (E.step E.script.segments target terminal).result.mapError
              (·.detachedAt target.ty.path) :=
            ((E.run_step _ target terminal).detachedAt_of_error target.ty.path).symm
        _ = ((E.withScript back).step back.segments spot.value terminal).result.mapError
              (fun e => (e.quoting E.source).detachedAt target.ty.path) := by
            rw [hresult, Except.mapError_mapError]
  · have hattached : terminal.isSome → detachedBy? E.script.segments = none := by
      intro hsome
      obtain ⟨new, rfl⟩ := Option.isSome_iff_exists.1 hsome
      cases hcall : detachedBy? E.script.segments with
      | none => rfl
      | some call => exact absurd (by rw [evaluate_of_detached hcall]) (hnever call.name)
    rw [evaluate_of_attached hattached]
    exact step_of_follow?_eq_none hjoin hfields hnone terminal

/-- The script for the number of the home of an animal's owner in the gallery. -/
def galleryAddress : Evaluation :=
  ⟨gallery, .typeAware, ⟨"owner.home.number",
    [⟨0, .field "owner"⟩, ⟨6, .field "home"⟩, ⟨11, .field "number"⟩]⟩, .empty⟩

/-- The first part of the script, which leads to the home. -/
def galleryHome : Script := ⟨"owner.home", [⟨0, .field "owner"⟩, ⟨6, .field "home"⟩]⟩

/-- The second part of the script. -/
def homeNumber : Script := ⟨"number", [⟨0, .field "number"⟩]⟩

/-- A puppy whose owner has a home. -/
def housedPuppy : Value :=
  Gallery.puppy.initial.fill [0, 3]
    (.present (Gallery.person.initial.fill [2] (.present Gallery.home.initial)))

/-- The home of the owner gets its number where it is, in the owner of the dog in the puppy. A
    puppy without an owner has no home to get one. -/
theorem home_is_numbered_in_place :
    (galleryAddress.evaluate housedPuppy (some (.int .u16 7))).target =
      housedPuppy.put [.slot 0, .slot 3, .payload, .slot 2]
        ((galleryAddress.withScript homeNumber).evaluate (.present Gallery.home.initial)
          (some (.int .u16 7))).target ∧
    ∃ e : ScriptError, e.OfHop ∧
      ((galleryAddress.withScript galleryHome).evaluate Gallery.puppy.initial none).result =
        .error e ∧
      (galleryAddress.evaluate Gallery.puppy.initial (some (.int .u16 7))).result =
        .error (e.quoting "owner.home.number") := by
  have hjoin : galleryAddress.script.Joins galleryHome homeNumber := rfl
  have hfields : ∀ s ∈ galleryHome.segments, s.segment.isCall = false := by decide
  have hback : homeNumber.segments ≠ [] := by decide
  obtain ⟨hfollowed, -⟩ := fields_focus_in_place galleryAddress hjoin hfields hback housedPuppy
    (some (.int .u16 7))
  obtain ⟨-, hlost⟩ := fields_focus_in_place galleryAddress hjoin hfields hback
    Gallery.puppy.initial (some (.int .u16 7))
  have hresult : (galleryAddress.evaluate Gallery.puppy.initial (some (.int .u16 7))).result =
      .error (.nullTarget "core::option::Option<zoo::Person>" "owner.home.number") := by rfl
  refine ⟨?_, ?_⟩
  · obtain ⟨-, -, htarget⟩ := hfollowed
      ⟨[.slot 0, .slot 3, .payload, .slot 2], .present Gallery.home.initial⟩ (by rfl)
    exact htarget
  · obtain ⟨e, he, halone, hwhole, -⟩ := hlost (by rfl) (by simp [hresult])
    exact ⟨e, he, halone none, hwhole⟩

/-! ## Behind calls -/

/-- What stands behind a call is evaluated on the value that the call returned, with nothing to
    assign, and leaves the target alone. -/
theorem step_append_of_call {front back : List PlacedSegment} {last : PlacedSegment}
    (hlast : front.getLast? = some last) (hcall : last.segment.isCall = true) (hback : back ≠ [])
    (target : Value) :
    (E.step (front ++ back) target none).result =
        ((E.step front target none).result.bind fun value => (E.step back value none).result) ∧
      (E.step (front ++ back) target none).target = (E.step front target none).target := by
  induction front generalizing target with
  | nil => simp at hlast
  | cons first front ih =>
    have hrest : front ≠ [] → front.getLast? = some last := fun hne => by
      rwa [List.getLast?_cons_of_ne_nil hne] at hlast
    cases hsee : target.seeThrough with
    | error ty => simp [step, hsee, Except.bind]
    | ok here =>
      cases hseg : first.segment with
      | field name =>
        have hne : front ≠ [] := by
          rintro rfl
          obtain rfl : first = last := by simpa using hlast
          simp [hseg, Segment.isCall] at hcall
        cases hspot : E.fieldSpot? here.value name with
        | none =>
          rw [List.cons_append, step_unknownField hsee hseg hspot,
            step_unknownField hsee hseg hspot]
          exact ⟨rfl, rfl⟩
        | some inside =>
          obtain ⟨hresult, htarget⟩ := ih (hrest hne) inside.value
          rw [List.cons_append, step_hop (by simp [hne]) hsee hseg hspot,
            step_hop hne hsee hseg hspot, htarget]
          exact ⟨hresult, rfl⟩
      | call name params =>
        obtain ⟨hresult, htarget⟩ := E.step_call hsee hseg front none
        obtain ⟨hresult', htarget'⟩ := E.step_call hsee hseg (front ++ back) none
        refine ⟨?_, htarget'.trans htarget.symm⟩
        rw [List.cons_append, hresult, hresult']
        cases (E.call here.value.ty (some here.value) name params).result with
        | error e => rfl
        | ok value =>
          by_cases hne : front = []
          · simp [hne, hback, Except.bind]
          · simpa [hne, Except.bind] using (ih (hrest hne) value).1

/-- What becomes of the target depends on the attached segments alone. -/
theorem target_step_of_attached {segments others : List PlacedSegment}
    (h : attached (segments.map (·.segment)) = attached (others.map (·.segment)))
    (target : Value) :
    (E.step segments target none).target = (E.step others target none).target := by
  induction segments generalizing others target with
  | nil =>
    obtain rfl : others = [] := by simpa using attached_eq_nil_iff.1 h.symm
    rfl
  | cons first rest ih =>
    cases others with
    | nil => exact absurd (attached_eq_nil_iff.1 h) (by simp)
    | cons second others =>
      rw [List.map_cons, List.map_cons, attached_cons_eq_cons_iff] at h
      obtain ⟨hsame, hrest⟩ := h
      cases hsee : target.seeThrough with
      | error ty => simp [step, hsee]
      | ok here =>
        cases hseg : first.segment with
        | field name =>
          have hseg' : second.segment = .field name := hsame.symm.trans hseg
          have hattached := hrest (by rw [hseg]; rfl)
          cases hspot : E.fieldSpot? here.value name with
          | none => rw [step_unknownField hsee hseg hspot, step_unknownField hsee hseg' hspot]
          | some inside =>
            by_cases hnil : rest = []
            · subst hnil
              obtain rfl : others = [] := by simpa using attached_eq_nil_iff.1 hattached.symm
              rw [step_field hsee hseg hspot, step_field hsee hseg' hspot]
            · have hnil' : others ≠ [] := by
                rintro rfl
                exact hnil (by simpa using attached_eq_nil_iff.1 hattached)
              rw [step_hop hnil hsee hseg hspot, step_hop hnil' hsee hseg' hspot,
                ih hattached inside.value]
        | call name params =>
          have hseg' : second.segment = .call name params := hsame.symm.trans hseg
          rw [(step_call hsee hseg rest none).2, (step_call hsee hseg' others none).2]

/-- The steps of a script with a call in it, in terms of the parts that the call ends and that
    follow it. -/
theorem step_of_call {front back : Script} (hjoin : E.script.Joins front back)
    {last : PlacedSegment} (hlast : front.segments.getLast? = some last)
    (hcall : last.segment.isCall = true) (hback : back.segments ≠ []) (target : Value) :
    (E.step E.script.segments target none).result =
        (((E.withScript front).step front.segments target none).result.mapError
          (·.quoting E.source)).bind (fun value =>
            ((E.withScript back).step back.segments value none).result.mapError
              (·.quoting E.source)) ∧
      (E.step E.script.segments target none).target =
        ((E.withScript front).step front.segments target none).target := by
  obtain ⟨hresult, htarget⟩ :=
    step_withScript (E.withScript front) E.script hjoin.map_segments target none
  obtain ⟨hresult', htarget'⟩ :=
    step_append_of_call (E := E.withScript front) hlast hcall hback target
  -- the second part is evaluated in the name of the first one, and then in that of the whole
  have hquoted (value : Value) :
      ((E.withScript front).step back.segments value none).result.mapError (·.quoting E.source) =
        ((E.withScript back).step back.segments value none).result.mapError
          (·.quoting E.source) := by
    have hfront : ((E.withScript front).step back.segments value none).result =
        ((E.withScript back).step back.segments value none).result.mapError
          (·.quoting front.source) := (step_withScript (E.withScript back) front rfl value none).1
    rw [hfront, Except.mapError_mapError]
    simp only [ScriptError.quoting_quoting]
  refine ⟨(hresult.trans (congrArg _ hresult')).trans ?_, htarget.trans htarget'⟩
  cases ((E.withScript front).step front.segments target none).result with
  | error e => rfl
  | ok value => exact hquoted value

/-- A script without a value to assign that has a call in it, at the end of its first part. The
    result is that of evaluating the second part on the value that the first part returned, or
    the failure of the first part, but for the script quoted; and the target is what the first
    part has made of it. So what becomes of the target depends on the segments up to the first
    call, and on nothing behind it. -/
theorem calls_detach_what_follows (E : Evaluation) {front back : Script}
    (hjoin : E.script.Joins front back) {last : PlacedSegment}
    (hlast : front.segments.getLast? = some last) (hcall : last.segment.isCall = true)
    (hback : back.segments ≠ []) (target : Value) :
    (E.evaluate target none).target = ((E.withScript front).evaluate target none).target ∧
    (∀ value, ((E.withScript front).evaluate target none).result = .ok value →
      (E.evaluate target none).result =
        ((E.withScript back).evaluate value none).result.mapError (·.quoting E.source)) ∧
    (∀ e, ((E.withScript front).evaluate target none).result = .error e →
      (E.evaluate target none).result = .error (e.quoting E.source)) ∧
    ∀ other : Script, attached other.chain = attached E.script.chain →
      ((E.withScript other).evaluate target none).target = (E.evaluate target none).target := by
  obtain ⟨hresult, htarget⟩ := step_of_call hjoin hlast hcall hback target
  simp only [result_evaluate_none, target_evaluate_none, script_withScript]
  refine ⟨htarget, fun value hvalue => ?_, fun e he => ?_, fun other hother => ?_⟩
  · rw [hresult, hvalue]
    rfl
  · rw [hresult, he]
    rfl
  · calc ((E.withScript other).step other.segments target none).target
        = (E.step other.segments target none).target :=
          (step_withScript E other rfl target none).2
      _ = (E.step E.script.segments target none).target := target_step_of_attached hother target

/-- The script for the birthday of an animal in the gallery, which goes on with the name of the
    number of years. -/
def galleryBirthday : Evaluation :=
  ⟨gallery, .typeAware,
    ⟨"birthday().name", [⟨0, .call "birthday" []⟩, ⟨11, .field "name"⟩]⟩, .empty⟩

/-- The first part of the script. -/
def oneBirthday : Script := ⟨"birthday()", [⟨0, .call "birthday" []⟩]⟩

/-- The first part of the script, and a birthday for the number of years. -/
def twoBirthdays : Script :=
  ⟨"birthday().birthday()", [⟨0, .call "birthday" []⟩, ⟨11, .call "birthday" []⟩]⟩

/-- The second part of the script. -/
def nameOfYears : Script := ⟨"name", [⟨0, .field "name"⟩]⟩

/-- The number of years has neither a name nor a birthday. The dog is a year older all the same,
    and only one year. A person has no birthday to go on from. -/
theorem dog_stays_older :
    (galleryBirthday.evaluate Gallery.dog.initial none).result =
      .error (.memberNotFound "u32" "name" "birthday().name") ∧
    (galleryBirthday.evaluate Gallery.dog.initial none).target =
      Gallery.dog.initial.fill [0, 1] (.int .u32 1) ∧
    ((galleryBirthday.withScript twoBirthdays).evaluate Gallery.dog.initial none).target =
      Gallery.dog.initial.fill [0, 1] (.int .u32 1) ∧
    (galleryBirthday.evaluate Gallery.person.initial none).result =
      .error (.memberNotFound "zoo::Person" "birthday" "birthday().name") := by
  have hjoin : galleryBirthday.script.Joins oneBirthday nameOfYears := rfl
  have hback : nameOfYears.segments ≠ [] := by decide
  obtain ⟨htarget, hvalue, -, hothers⟩ :=
    calls_detach_what_follows galleryBirthday hjoin rfl rfl hback Gallery.dog.initial
  obtain ⟨-, -, hfailed, -⟩ :=
    calls_detach_what_follows galleryBirthday hjoin rfl rfl hback Gallery.person.initial
  have holder : (galleryBirthday.evaluate Gallery.dog.initial none).target =
      Gallery.dog.initial.fill [0, 1] (.int .u32 1) := htarget.trans (by rfl)
  refine ⟨?_, holder, (hothers twoBirthdays (by decide)).trans holder, ?_⟩
  · exact (hvalue (.int .u32 1) (by rfl)).trans (by rfl)
  · exact hfailed (.memberNotFound "zoo::Person" "birthday" "birthday()") (by rfl)

end Evaluation

end ObjectPath
