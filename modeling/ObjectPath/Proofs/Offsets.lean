import ObjectPath.Proofs.Declared
import ObjectPath.Proofs.Peeling
import ObjectPath.Proofs.Rejection
import ObjectPath.Proofs.StaticEntry
import ObjectPath.Proofs.Undo

/-!
# Offsets in reports

A reflector that reports an empty segment quotes the script as it was given, but the offset counts
from where the script was read, which is behind the blanks in front of it. So the offset leads to a
dot, an opening parenthesis or the end in the script without its blanks; in the quoted script it
falls short by the size of the blanks in front.

Only reading a script comes upon empty segments: evaluating one that was read never does, and
following a path reads no script.

Results:
* `Evaluation.evaluate_ne_emptySegment`, `Evaluation.evaluateStatic_ne_emptySegment`,
  `Access.ofFields_of_follow`, `Access.ofFields_of_assign`: what does not report empty segments.
* `Reflector.Answers.of_emptySegment`: an empty segment is reported when the script is read.
* `Reflector.offsets_count_in_prepared_script`: what the offset of a report means.
* `Reflector.offset_misses_quoted_script`: a report with an offset that leads to a letter.
-/

namespace ObjectPath

/-! ## Evaluation -/

theorem Arguments.bind_ne_emptySegment (S : Schema) (args : Arguments) (params : List Placeholder)
    (offset : Nat) : args.bind S params ≠ .error (.emptySegment offset) := by
  intro h
  rw [bind, Except.map_eq_error_iff] at h
  obtain ⟨_, p, _, _, -, -, hp⟩ := Except.mapM_eq_error_iff.1 h
  unfold bindOne at hp
  split at hp
  · cases hp
  · split at hp <;> cases hp

namespace Evaluation

variable {E : Evaluation} {cls quoted : String} {offset : Nat}

theorem Run.ne_emptySegment {segments : List PlacedSegment} {target after : Value}
    {terminal : Option Value} {calls : List Invocation} {result : Except ScriptError Value}
    (h : E.Run segments target terminal calls result after) :
    result ≠ .error (.invalidScript cls quoted (.emptySegment offset)) := by
  intro hresult
  obtain ⟨_, _, _, _, params, -, -, hbind, -⟩ := h.of_invalid hresult
  exact Arguments.bind_ne_emptySegment _ _ params offset hbind

theorem evaluate_ne_emptySegment (E : Evaluation) (target : Value) (terminal : Option Value) :
    (E.evaluate target terminal).result ≠
      .error (.invalidScript cls quoted (.emptySegment offset)) := by
  rcases E.evaluate_cases target terminal with ⟨_, -, -, hresult, -⟩ | hrun
  · rw [hresult]
    exact nofun
  · exact hrun.ne_emptySegment

theorem call_none_ne_emptySegment (E : Evaluation) (ty : Ty) (name : String)
    (params : List Placeholder) :
    (E.call ty none name params).result ≠
      .error (.invalidScript cls quoted (.emptySegment offset)) := by
  intro h
  cases hbind : E.args.bind E.schema params with
  | error reason =>
    rw [call_of_unbound hbind] at h
    obtain ⟨-, -, rfl⟩ := ScriptError.invalidScript.inj (Except.error.inj h)
    exact Arguments.bind_ne_emptySegment _ _ params offset hbind
  | ok bound =>
    cases hfound : E.schema.resolveMethod E.lookup ty name bound.types with
    | none =>
      rw [call_of_unresolved hbind hfound] at h
      cases h
    | some found =>
      rw [call_none hbind hfound, Except.mapError_eq_error_iff] at h
      obtain ⟨_, -, hfault⟩ := h
      cases hfault

theorem evaluateStatic_ne_emptySegment {ty : Ty} (hscript : E.script.segments ≠ []) :
    (E.evaluateStatic ty).1 ≠ .error (.invalidScript cls quoted (.emptySegment offset)) := by
  obtain ⟨first, rest, hsegments⟩ := List.exists_cons_of_ne_nil hscript
  intro h
  cases hfirst : first.segment with
  | field name =>
    unfold evaluateStatic at h
    simp only [hsegments, hfirst] at h
    split at h <;> cases h
  | call name params =>
    rw [evaluateStatic_of_call hsegments hfirst] at h
    cases hresult : (E.call ty none name params).result with
    | error e =>
      rw [hresult] at h
      exact call_none_ne_emptySegment E ty name params (hresult.trans h)
    | ok value =>
      rw [hresult, Except.bind] at h
      split at h
      · cases h
      · exact (E.run_step rest value none).ne_emptySegment h

end Evaluation

/-! ## Paths -/

namespace Access

variable {S : Schema} {script : String} {e : ScriptError}

theorem ofFields_of_declared {v : Value} {name : String}
    (h : declared S script v name = .error e) : e.OfFields := by
  rcases declared_cases S script v name with ⟨_, -, hnull⟩ | ⟨_, -, -, hunknown⟩ |
    ⟨_, _, _, -, -, -, hfield⟩
  · obtain rfl := Except.error.inj (hnull.symm.trans h)
    trivial
  · obtain rfl := Except.error.inj (hunknown.symm.trans h)
    trivial
  · rw [hfield] at h
    cases h

theorem ofFields_of_follow {names : List String} {v : Value}
    (h : follow S script names v = .error e) : e.OfFields := by
  induction names generalizing v with
  | nil => cases h
  | cons name names ih =>
    cases hfield : declared S script v name with
    | error cause =>
      rw [follow_of_error hfield] at h
      exact ofFields_of_declared (hfield.trans h)
    | ok field =>
      rw [follow_of_ok hfield, Except.map_eq_error_iff] at h
      exact ih h

theorem ofFields_of_get {target : Value} {path : String} (h : get S target path = .error e) :
    e.OfFields := by
  rw [get, Except.map_eq_error_iff] at h
  exact ofFields_of_follow h

theorem ofFields_of_getAs {target : Value} {path : String} {ty : Ty}
    (h : getAs S target path ty = .error e) : e.OfFields := by
  unfold getAs at h
  cases hget : get S target path with
  | error cause =>
    rw [hget] at h
    obtain rfl : cause = e := Except.error.inj h
    exact ofFields_of_get hget
  | ok v =>
    rw [hget] at h
    simp only [bind, Except.bind] at h
    split at h
    · cases h
    · obtain rfl := Except.error.inj h
      trivial

theorem ofFields_of_write {target new : Value} {name : String}
    (h : (write S script target name new).result = .error e) : e.OfFields := by
  unfold write at h
  split at h
  · next hfield =>
    obtain rfl := Except.error.inj h
    exact ofFields_of_declared hfield
  · simp only [fill] at h
    split at h
    · cases h
    · obtain rfl := Except.error.inj h
      trivial

theorem ofFields_of_assign {target new : Value} {path : String}
    (h : (assign S target path new).result = .error e) : e.OfFields := by
  unfold assign at h
  split at h
  · next hfollow =>
    obtain rfl := Except.error.inj h
    exact ofFields_of_follow hfollow
  · exact ofFields_of_write h

theorem ofFields_of_set {target new : Value} {path : String}
    (h : set S target path new = .error e) : e.OfFields := by
  rw [set, Written.changed, Except.map_eq_error_iff] at h
  exact ofFields_of_assign h

end Access

/-! ## Reflectors -/

namespace Reflector

open Text Script

variable {R : Reflector} {cls script quoted : String} {offset : Nat}

/-- What the entry points of a reflector answer to a script or path, or to a script that was read
    from it. -/
inductive Answers (R : Reflector) (script : String) : Except ScriptError Value → Prop
  | reflect (target : Value) (values : List Value) (terminal : Option Value) :
      Answers R script (R.reflect target script values terminal).result
  | reflectTyped (target : Value) (values : List Value) (types : List Ty)
      (terminal : Option Value) :
      Answers R script (R.reflectTyped target script values types terminal).result
  | resolveStatic (cls : String) (values : List Value) :
      Answers R script (R.resolveStatic cls script values).1
  | evaluate {compiled : Script} (hread : Script.parse script = .ok compiled) (args : Arguments)
      (target : Value) (terminal : Option Value) :
      Answers R script ((R.evaluation compiled args).evaluate target terminal).result
  | get (target : Value) : Answers R script (R.get target script)
  | getAs (target : Value) (ty : Ty) : Answers R script (R.getAs target script ty)
  | set (target new : Value) : Answers R script (R.set target script new)

theorem compile_eq_error_iff {e : ScriptError} : R.compile cls script = .error e ↔
    ∃ reason, Script.parse (R.options.prepare script) = .error reason ∧
      .invalidScript cls script reason = e := by
  rw [compile, Except.mapError_eq_error_iff]

theorem of_run_eq_emptySegment {target : Value} {args : Arguments} {terminal : Option Value}
    (h : (R.run target script args terminal).result =
      .error (.invalidScript cls quoted (.emptySegment offset))) :
    quoted = script ∧
      Script.parse (R.options.prepare script) = .error (.emptySegment offset) := by
  unfold run at h
  split at h
  · next e hcompile =>
    obtain ⟨reason, hparse, rfl⟩ := compile_eq_error_iff.1 hcompile
    obtain ⟨-, rfl, rfl⟩ := ScriptError.invalidScript.inj (Except.error.inj h)
    exact ⟨rfl, hparse⟩
  · exact absurd h (Evaluation.evaluate_ne_emptySegment _ _ _)

theorem of_resolveStatic_eq_emptySegment {name : String} {values : List Value}
    (h : (R.resolveStatic name script values).1 =
      .error (.invalidScript cls quoted (.emptySegment offset))) :
    quoted = script ∧
      Script.parse (R.options.prepare script) = .error (.emptySegment offset) := by
  unfold resolveStatic at h
  split at h
  · cases h
  · split at h
    · next e hcompile =>
      obtain ⟨reason, hparse, rfl⟩ := compile_eq_error_iff.1 hcompile
      obtain ⟨-, rfl, rfl⟩ := ScriptError.invalidScript.inj (Except.error.inj h)
      exact ⟨rfl, hparse⟩
    · next compiled hcompile =>
      have hread := Except.mapError_eq_ok_iff.1 hcompile
      exact absurd h (Evaluation.evaluateStatic_ne_emptySegment (segments_ne_nil_of_parse hread))

/-- An empty segment is reported when the script is read, and the report quotes the script. -/
theorem Answers.of_emptySegment {answer : Except ScriptError Value} (h : R.Answers script answer)
    (hanswer : answer = .error (.invalidScript cls quoted (.emptySegment offset))) :
    quoted = script ∧
      Script.parse (R.options.prepare script) = .error (.emptySegment offset) := by
  cases h with
  | reflect target values terminal => exact of_run_eq_emptySegment hanswer
  | reflectTyped target values types terminal =>
    unfold Reflector.reflectTyped at hanswer
    split at hanswer
    · next reason htyped =>
      obtain ⟨-, -, rfl⟩ := ScriptError.invalidScript.inj (Except.error.inj hanswer)
      unfold Arguments.typed at htyped
      split at htyped <;> cases htyped
    · exact of_run_eq_emptySegment hanswer
  | resolveStatic name values => exact of_resolveStatic_eq_emptySegment hanswer
  | evaluate hread args target terminal =>
    exact absurd hanswer (Evaluation.evaluate_ne_emptySegment _ _ _)
  | get target => exact (Access.ofFields_of_get hanswer).elim
  | getAs target ty => exact (Access.ofFields_of_getAs hanswer).elim
  | set target new => exact (Access.ofFields_of_set hanswer).elim

theorem answers_of_parse (h : Script.parse (R.options.prepare script) =
    .error (.emptySegment offset)) (target : Value) :
    R.Answers script (.error (.invalidScript target.ty.path script (.emptySegment offset))) := by
  have hcompile : R.compile target.ty.path script =
      .error (.invalidScript target.ty.path script (.emptySegment offset)) :=
    compile_eq_error_iff.2 ⟨_, h, rfl⟩
  have hanswer : R.Answers script (R.reflect target script [] none).result :=
    .reflect target [] none
  rwa [Reflector.reflect, run, hcompile] at hanswer

/-- A script is read without the blanks at its ends, if scripts are trimmed, and otherwise as it
    is. -/
theorem prepare_cases (o : ScriptOptions) (script : String) :
    ∃ lead tail, script.toList = lead ++ ((o.prepare script).toList ++ tail) ∧
      (∀ c ∈ lead, isBlank c = true) ∧ (∀ c ∈ tail, isBlank c = true) ∧
      (o.trim = false → lead = [] ∧ tail = []) := by
  by_cases htrim : o.trim = true
  · obtain ⟨lead, tail, hscript, hlead, htail⟩ := exists_trim script.toList
    refine ⟨lead, tail, ?_, hlead, htail, fun hkept => ?_⟩
    · rw [ScriptOptions.prepare, if_pos htrim, trimmed, String.toList_ofList, ← hscript]
    · rw [htrim] at hkept
      cases hkept
  · refine ⟨[], [], ?_, List.forall_mem_nil _, List.forall_mem_nil _, fun _ => ⟨rfl, rfl⟩⟩
    rw [ScriptOptions.prepare, if_neg htrim, List.nil_append, List.append_nil]

/-- Empty segments are reported exactly when the script that is read has one, with the whole script
    quoted. The offset leads to a dot, an opening parenthesis or the end in the script that is read,
    which is the quoted one without the blanks at its ends, if scripts are trimmed, and otherwise
    the quoted one itself. -/
theorem offsets_count_in_prepared_script (R : Reflector) (script quoted : String) (offset : Nat) :
    ((∃ cls, R.Answers script (.error (.invalidScript cls quoted (.emptySegment offset)))) ↔
      quoted = script ∧
        Script.parse (R.options.prepare script) = .error (.emptySegment offset)) ∧
    ∀ cls, R.Answers script (.error (.invalidScript cls quoted (.emptySegment offset))) →
      IsBreak (R.options.prepare quoted) offset ∧
        ∃ lead tail, quoted.toList = lead ++ ((R.options.prepare quoted).toList ++ tail) ∧
          (∀ c ∈ lead, isBlank c = true) ∧ (∀ c ∈ tail, isBlank c = true) ∧
          (R.options.trim = false → lead = [] ∧ tail = []) := by
  refine ⟨⟨?_, ?_⟩, fun cls h => ?_⟩
  · rintro ⟨cls, h⟩
    exact h.of_emptySegment rfl
  · rintro ⟨rfl, h⟩
    exact ⟨_, answers_of_parse h .unit⟩
  · obtain ⟨rfl, hparse⟩ := h.of_emptySegment rfl
    exact ⟨isBreak_of_parse hparse, prepare_cases R.options quoted⟩

/-- The text `  name.` is trimmed for the sample classes, and there is nothing behind its dot. -/
theorem parse_trimmed_name : galleryReflector.options.prepare "  name." = "name." ∧
    Script.parse (galleryReflector.options.prepare "  name.") = .error (.emptySegment 5) := by
  decide +kernel

/-- An empty segment at the end of a script. The two blanks in front do not count for its offset. -/
theorem blanks_are_not_counted :
    galleryReflector.Answers "  name." (.error (.invalidScript "zoo::Animal" "  name."
      (.emptySegment 5))) ∧
    IsBreak "name." 5 ∧
    ∃ lead tail, "  name.".toList = lead ++ ("name.".toList ++ tail) ∧
      (∀ c ∈ lead, isBlank c = true) ∧ (∀ c ∈ tail, isBlank c = true) := by
  obtain ⟨hread, hparse⟩ := parse_trimmed_name
  have hanswer := answers_of_parse hparse Gallery.animal.initial
  obtain ⟨-, hplace⟩ := offsets_count_in_prepared_script galleryReflector "  name." "  name." 5
  obtain ⟨hbreak, lead, tail, hquoted, hlead, htail, -⟩ := hplace _ hanswer
  rw [hread] at hbreak hquoted
  exact ⟨hanswer, hbreak, lead, tail, hquoted, hlead, htail⟩

/-- Not every offset leads to a break in the quoted script: here it leads to a letter. -/
theorem offset_misses_quoted_script :
    ¬ ∀ (R : Reflector) (script cls quoted : String) (offset : Nat),
      R.Answers script (.error (.invalidScript cls quoted (.emptySegment offset))) →
        IsBreak quoted offset := by
  intro h
  obtain ⟨-, hparse⟩ := parse_trimmed_name
  obtain ⟨-, hend | ⟨mark, hmark, -, -, -, hletter⟩⟩ :=
    h _ _ _ _ _ (answers_of_parse hparse Gallery.animal.initial)
  · exact absurd hend (by decide +kernel)
  · have hextract : String.Pos.Raw.extract "  name." ⟨5⟩ ⟨6⟩ = "e" := by decide +kernel
    rw [hextract] at hletter
    subst hletter
    exact absurd hmark (by decide +kernel)

end Reflector

end ObjectPath
