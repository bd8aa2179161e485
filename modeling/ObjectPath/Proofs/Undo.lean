import ObjectPath.Gallery.Declare
import ObjectPath.Proofs.Assignment

/-!
# Assignments can be undone

An assignment takes the old value out of its field as it is, hidden slots included, and gives it
back. The old value has the field's type, so it goes back unconverted, into the place where it
was, and the whole target is what it had been.

Results:
* `Run.undone`: assigning the old value through the same fields restores the target.
* `assignment_is_undone`: the same for whole evaluations, with what the second one returns.
-/

namespace ObjectPath

/-- A value of the type of the old one takes its place as it is. -/
theorem Value.overwrite?_of_ty_eq {old new : Value} (h : new.ty = old.ty) :
    old.overwrite? new = some new := by
  rw [overwrite?, ← h, Ty.convert?_self]

/-- A script that was read has at least one segment. -/
theorem Script.segments_ne_nil_of_parse {source : String} {script : Script}
    (h : parse source = .ok script) : script.segments ≠ [] := by
  obtain ⟨segments, hsegments, rfl⟩ := Except.map_eq_ok_iff.1 h
  have hall := Except.mapM_eq_ok_iff.1 hsegments
  rw [pieces] at hall
  obtain ⟨_, _, -, -, rfl⟩ := List.forall₂_cons_left_iff.1 hall
  simp

namespace Evaluation

variable {E : Evaluation}

/-- Overwriting a field a second time, with what it held at first, restores the target. -/
theorem put_back {target : Value} {here inside : Spot} {name : String}
    (hsee : target.seeThrough = .ok here) (hspot : E.fieldSpot? here.value name = some inside)
    (new : Value) :
    (target.put (here.place ++ inside.place) new).put (here.place ++ inside.place) inside.value =
      target := by
  rw [Value.put_put]
  exact put_field hsee hspot

theorem Run.undone {segments : List PlacedSegment} {target after new old : Value}
    {terminal : Option Value} {calls : List Invocation} {result : Except ScriptError Value}
    (h : E.Run segments target terminal calls result after) (hne : segments ≠ [])
    (hfields : ∀ s ∈ segments, s.segment.isCall = false) (hnew : terminal = some new)
    (hold : result = .ok old) :
    ∃ stored, Converts old.ty new stored ∧
      (E.step segments after (some old)).result = .ok stored ∧
      (E.step segments after (some old)).target = target := by
  induction h with
  | null | unknownField => simp at hold
  | ended => exact absurd rfl hne
  | @lastField first target terminal here inside name hsee hseg hspot =>
    rcases E.finish_cases here.value.ty name inside.value terminal with
      ⟨_, hnone, -, -⟩ | ⟨_, hnone, -, -⟩ | ⟨new', stored, hsome, hstored, hdone⟩ |
      ⟨_, _, -, hdone⟩
    · simp [hnone] at hnew
    · simp [hnone] at hnew
    · obtain rfl : new' = new := by simpa [hsome] using hnew
      obtain rfl : inside.value = old := by simpa [hdone] using hold
      have hconverts : Converts inside.value.ty new' stored := .of_convert? hstored
      have hback : stored.overwrite? inside.value = some inside.value :=
        Value.overwrite?_of_ty_eq hconverts.ty_eq.symm
      have hsee' := seeThrough_put_field hsee hspot stored
      have hspot' := fieldSpot?_put hspot stored
      rw [hdone, step_field hsee' hseg hspot']
      simp only [finish, hback]
      exact ⟨stored, hconverts, rfl, put_back hsee hspot stored⟩
    · simp [hdone] at hold
  | @hop first rest target after terminal here inside name _ _ hrest hsee hseg hspot _ ih =>
    obtain ⟨stored, hconverts, hresult, htarget⟩ :=
      ih hrest (List.forall_mem_cons.1 hfields).2 hnew hold
    have hsee' := seeThrough_put_field hsee hspot after
    have hspot' := fieldSpot?_put hspot after
    rw [step_hop hrest hsee' hseg hspot', htarget]
    exact ⟨stored, hconverts, hresult, put_back hsee hspot after⟩
  | unbound _ hseg | unknownMethod _ hseg | faulted _ hseg | returned _ hseg | continued _ _ hseg =>
    exact absurd hfields (not_fields_of_call hseg _)

/-- An assignment through fields is undone by assigning the value it returned to the same field.
    That gives back the value assigned, as a value of the field's type, and the target is exactly
    what it was before the two assignments. -/
theorem assignment_is_undone (E : Evaluation) (hne : E.script.segments ≠ [])
    (hfields : ∀ s ∈ E.script.segments, s.segment.isCall = false) (target new : Value)
    {old : Value} (hold : (E.evaluate target (some new)).result = .ok old) :
    ∃ stored, Converts old.ty new stored ∧
      (E.evaluate (E.evaluate target (some new)).target (some old)).result = .ok stored ∧
      (E.evaluate (E.evaluate target (some new)).target (some old)).target = target := by
  have hrun := run_of_fields hfields target (some new)
  obtain ⟨stored, hconverts, hresult, htarget⟩ := hrun.undone hne hfields rfl hold
  rw [evaluate_of_attached (fun _ => detachedBy?_of_fields hfields)
    (E.evaluate target (some new)).target]
  exact ⟨stored, hconverts, hresult, htarget⟩

end Evaluation

/-! ## A page with hidden notes -/

namespace Sample

/-- A page with notes that scripts do not see and clones do not share. -/
def page : ClassDecl :=
  .named "sample::Page" [.plain "title" .string, .hidden "notes" .string]

/-- A folder that may hold a page. -/
def folder : ClassDecl := .named "sample::Folder" [.plain "page" (.optional page.objects)]

/-- A folder that is kept. -/
def archive : ClassDecl := .named "sample::Archive" [.embedding "folder" folder]

/-- The three classes. -/
def archives : Schema := ⟨[page, folder, archive], by decide +kernel⟩

/-- A page with a title and notes. -/
def draft : Value := .object page.id [.string "Places", .string "unfinished"]

/-- An archive that holds the page. -/
def filed : Value := archive.initial.fill [0, 0] (.present draft)

/-- The page of an archive. -/
def filedPage : Evaluation := ⟨archives, .typeAware, ⟨"page", [⟨0, .field "page"⟩]⟩, .empty⟩

end Sample

/-- A page that was taken out of an archive is put back with its notes. -/
theorem Evaluation.cleared_page_is_restored :
    ∃ stored, Converts (.optional Sample.page.objects) .null stored ∧
      (Sample.filedPage.evaluate (Sample.filedPage.evaluate Sample.filed (some .null)).target
          (some (.present Sample.draft))).result = .ok stored ∧
      (Sample.filedPage.evaluate (Sample.filedPage.evaluate Sample.filed (some .null)).target
          (some (.present Sample.draft))).target = Sample.filed :=
  assignment_is_undone Sample.filedPage
    (Script.segments_ne_nil_of_parse
      (by decide +kernel : Script.parse "page" = .ok Sample.filedPage.script))
    (by decide) Sample.filed .null
    (rfl : (Sample.filedPage.evaluate Sample.filed (some .null)).result =
      .ok (.present Sample.draft))

end ObjectPath
