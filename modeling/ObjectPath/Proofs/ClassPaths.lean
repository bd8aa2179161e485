import ObjectPath.Proofs.ClassRules

/-!
# Paths given to classes

A class may be given its path by an entry of its item. The path is looked at only at its two ends:
it is not empty, and no `::` stands there. It is cut somewhere else, at its last `::`, into the
module of the class and its name. Colons can stand in a row, of which any two are a `::`, so it has
to be said that nothing goes wrong between the ends and the cut.

What stands behind any `::` of a path ends in what stands behind the last one. This is why the name
has no `::` in it, and why it is empty only if a `::` stands at the end. The module is what is in
front, so it is empty or begins with `::` only if the path begins with `::`. The same holds of a
module that is a single colon: with the cut behind it there are three of them.

Results:
* `Text.cutLast?_eq_some_iff`: a text is cut at its last `::`.
* `ClassNames.SplitFrom`: names that are the parts of a path.
* `ClassNames.splitFrom_iff`: a path that a class can be given has parts, and other paths have none.
* `ClassOptions.isClassPath_of_entries`: the entries of an item ask for no other paths.
* `ClassItem.custom_path_splits_without_loss`: the names of a class that is given its path.
-/

namespace ObjectPath

/-! ## The last cut -/

namespace Text

variable {text rest front back : List Char}

/-- The text is cut at its last `::`: what stands behind any `::` of it ends in what stands behind
    this one. -/
structure CutAtLast (text front back : List Char) : Prop where
  whole : text = front ++ "::".toList ++ back
  last : ∀ other behind, text = other ++ "::".toList ++ behind → back <:+ behind

theorem not_longer_suffix (other behind : List Char) :
    ¬ other ++ "::".toList ++ behind <:+ behind := by
  intro h
  have hlength := h.length_le
  have hcolons : "::".toList.length = 2 := rfl
  rw [List.length_append, List.length_append] at hlength
  omega

theorem hasDoubleColon_iff : hasDoubleColon text = true ↔ "::".toList <:+: text := by
  induction text with
  | nil => simp [hasDoubleColon]
  | cons c rest ih =>
    have hfirst : "::".toList <+: c :: rest ↔ c = ':' ∧ rest.head? = some ':' := by
      cases rest <;> simp [List.cons_prefix_cons, eq_comm]
    rw [hasDoubleColon, Bool.or_eq_true, ih, Bool.and_eq_true, beq_iff_eq, beq_iff_eq,
      List.infix_cons_iff, hfirst]

theorem cutLast?_eq_none_iff_free : cutLast? text = none ↔ ¬ "::".toList <:+: text := by
  rw [cutLast?_eq_none_iff, ← hasDoubleColon_iff, Bool.not_eq_true]

/-- Two colons at the beginning are the last ones if the second one does not begin a `::` either,
    and none comes behind it. -/
theorem cutAtLast_nil (h : ¬ "::".toList <:+: ':' :: back) :
    CutAtLast (':' :: ':' :: back) [] back := by
  refine ⟨rfl, fun other behind htext => ?_⟩
  cases other with
  | nil =>
    obtain rfl : back = behind := by simpa using htext
    exact List.suffix_rfl
  | cons first others =>
    have hrest : ':' :: back = others ++ "::".toList ++ behind := (List.cons.inj htext).2
    exact absurd ⟨others, behind, hrest.symm⟩ h

theorem CutAtLast.cons (h : CutAtLast rest front back) (c : Char) :
    CutAtLast (c :: rest) (c :: front) back := by
  refine ⟨by rw [h.whole]; rfl, fun other behind htext => ?_⟩
  cases other with
  | nil =>
    have hrest : rest = ':' :: behind := (List.cons.inj htext).2
    have hsuffix : back <:+ rest := by
      rw [h.whole]
      exact List.suffix_append _ _
    rw [hrest, List.suffix_cons_iff] at hsuffix
    rcases hsuffix with hback | hback
    · -- then there would be no room for the last two colons of the rest
      have hwhole := h.whole
      rw [hrest, ← hback] at hwhole
      exact absurd (hwhole ▸ List.suffix_rfl) (not_longer_suffix front back)
    · exact hback
  | cons first others => exact h.last others behind (List.cons.inj htext).2

namespace CutAtLast

theorem isInfix (h : CutAtLast text front back) : "::".toList <:+: text :=
  ⟨front, back, h.whole.symm⟩

/-- A `::` behind the last one would have less behind it. -/
theorem free (h : CutAtLast text front back) : ¬ "::".toList <:+: back := by
  rintro ⟨other, behind, hback⟩
  have htext : text = (front ++ "::".toList ++ other) ++ "::".toList ++ behind := by
    rw [h.whole, ← hback]
    simp only [List.append_assoc]
  have hsuffix := h.last _ _ htext
  rw [← hback] at hsuffix
  exact not_longer_suffix other behind hsuffix

theorem back_eq_nil (h : CutAtLast text front back) (hend : "::".toList <:+ text) : back = [] := by
  obtain ⟨other, hother⟩ := hend
  have hback := h.last other [] (by rw [List.append_nil, hother])
  exact List.suffix_nil.1 hback

theorem unique {front' back' : List Char} (h : CutAtLast text front back)
    (h' : CutAtLast text front' back') : front = front' ∧ back = back' := by
  have hback : back = back' :=
    (h.last _ _ h'.whole).eq_of_length_le (h'.last _ _ h.whole).length_le
  have hwhole := h.whole.symm.trans h'.whole
  rw [hback, List.append_cancel_right_eq, List.append_cancel_right_eq] at hwhole
  exact ⟨hwhole, hback⟩

end CutAtLast

/-- By induction from the end: a `::` is the last one if there is none in the rest, which begins
    with its second colon. -/
theorem cutAtLast_of_cutLast? (h : cutLast? text = some (front, back)) :
    CutAtLast text front back := by
  induction text generalizing front back with
  | nil => cases h
  | cons c rest ih =>
    rw [cutLast?] at h
    split at h
    · next before after hcut =>
      cases h
      exact (ih hcut).cons c
    · next hnone =>
      rw [Option.ite_none_right_eq_some, Bool.and_eq_true, beq_iff_eq, beq_iff_eq] at h
      obtain ⟨⟨rfl, hhead⟩, hcut⟩ := h
      obtain ⟨behind, rfl⟩ := List.head?_eq_some_iff.1 hhead
      cases hcut
      exact cutAtLast_nil (cutLast?_eq_none_iff_free.1 hnone)

theorem cutLast?_eq_some_iff : cutLast? text = some (front, back) ↔ CutAtLast text front back := by
  refine ⟨cutAtLast_of_cutLast?, fun h => ?_⟩
  cases hcut : cutLast? text with
  | none => exact absurd h.isInfix (cutLast?_eq_none_iff_free.1 hcut)
  | some cut =>
    obtain ⟨hfront, hback⟩ := h.unique (cutAtLast_of_cutLast? hcut)
    rw [hfront, hback]

/-- The last two of three colons are the last `::`. -/
example : cutLast? "a:::b".toList = some ("a:".toList, "b".toList) := by decide

end Text

/-! ## Parts of a path -/

/-- The text is not empty, and there is no `::` in it. -/
structure IsSimpleName (text : String) : Prop where
  nonempty : text ≠ ""
  free : ¬ "::".toList <:+: text.toList

/-- The text is not empty and not a single colon, and it does not begin with `::`. -/
structure IsModulePath (text : String) : Prop where
  nonempty : text ≠ ""
  notColon : text ≠ ":"
  start : ¬ "::".toList <+: text.toList

section

variable {path module name : String}

theorem IsSimpleName.isClassPath (h : IsSimpleName path) : IsClassPath path :=
  ⟨h.nonempty, fun hstart => h.free hstart.isInfix, fun hend => h.free hend.isInfix⟩

theorem isSimpleName_of_cut (hpath : IsClassPath path)
    (hcut : Text.CutAtLast path.toList module.toList name.toList) : IsSimpleName name := by
  refine ⟨?_, hcut.free⟩
  rintro rfl
  refine hpath.2.2 ⟨module.toList, ?_⟩
  simpa using hcut.whole.symm

theorem isModulePath_of_cut (hpath : IsClassPath path)
    (hcut : Text.CutAtLast path.toList module.toList name.toList) : IsModulePath module := by
  have hwhole := hcut.whole
  refine ⟨?_, ?_, fun hstart => hpath.2.1 ?_⟩
  · rintro rfl
    exact hpath.2.1 ⟨name.toList, hwhole.symm⟩
  · rintro rfl
    exact hpath.2.1 ⟨':' :: name.toList, hwhole.symm⟩
  · rw [hwhole, List.append_assoc]
    exact hstart.trans (List.prefix_append _ _)

theorem not_prefix_of_cut (hmodule : IsModulePath module)
    (hcut : Text.CutAtLast path.toList module.toList name.toList) :
    ¬ "::".toList <+: path.toList := by
  intro hstart
  rw [hcut.whole, List.append_assoc] at hstart
  match hchars : module.toList with
  | [] => exact hmodule.nonempty (String.toList_eq_nil_iff.1 hchars)
  | [c] =>
    rw [hchars] at hstart
    have hc : ':' = c := (List.cons_prefix_cons.1 hstart).1
    refine hmodule.notColon (String.toList_inj.1 ?_)
    rw [hchars, ← hc]
    rfl
  | c :: d :: others =>
    -- the module alone is as long as `::`
    have hlong : "::".toList.length ≤ module.toList.length := by simp [hchars]
    exact hmodule.start (List.prefix_of_prefix_length_le hstart (List.prefix_append _ _) hlong)

theorem isClassPath_of_cut (hmodule : IsModulePath module) (hname : name ≠ "")
    (hcut : Text.CutAtLast path.toList module.toList name.toList) : IsClassPath path := by
  refine ⟨?_, not_prefix_of_cut hmodule hcut, fun hend => hname ?_⟩
  · rintro rfl
    exact absurd hcut.isInfix (by simp)
  · exact String.toList_eq_nil_iff.1 (hcut.back_eq_nil hend)

theorem parts_of_free (h : ¬ "::".toList <:+: path.toList) :
    lastSegment path = path ∧ parentPath? path = none := by
  have hcut := Text.cutLast?_eq_none_iff_free.2 h
  rw [lastSegment, parentPath?, hcut]
  exact ⟨rfl, rfl⟩

theorem parts_of_cut (h : Text.CutAtLast path.toList module.toList name.toList) :
    lastSegment path = name ∧ parentPath? path = some module := by
  have hcut := Text.cutLast?_eq_some_iff.2 h
  rw [lastSegment, parentPath?, hcut]
  exact ⟨String.ofList_toList, congrArg some String.ofList_toList⟩

theorem exists_cut (h : "::".toList <:+: path.toList) :
    ∃ module name : String, Text.CutAtLast path.toList module.toList name.toList := by
  cases hcut : Text.cutLast? path.toList with
  | none => exact absurd h (Text.cutLast?_eq_none_iff_free.1 hcut)
  | some cut =>
    refine ⟨String.ofList cut.1, String.ofList cut.2, ?_⟩
    rw [String.toList_ofList, String.toList_ofList]
    exact Text.cutAtLast_of_cutLast? hcut

end

namespace ClassNames

variable {path : String} {names : ClassNames}

/-- The names are the path and its parts: it is a name alone, or it is cut at its last `::` into a
    module and a name. -/
inductive SplitFrom (path : String) : ClassNames → Prop
  | alone (hname : IsSimpleName path) : SplitFrom path ⟨path, path, none⟩
  | inModule {module name : String} (hmodule : IsModulePath module) (hname : IsSimpleName name)
      (hcut : Text.CutAtLast path.toList module.toList name.toList) :
      SplitFrom path ⟨path, name, some module⟩

/-- A path that a class can be given has parts, and other paths have none. -/
theorem splitFrom_iff :
    SplitFrom path names ↔
      IsClassPath path ∧ names = ⟨path, lastSegment path, parentPath? path⟩ := by
  constructor
  · intro h
    cases h with
    | alone hname =>
      obtain ⟨hlast, hparent⟩ := parts_of_free hname.free
      exact ⟨hname.isClassPath, by rw [hlast, hparent]⟩
    | inModule hmodule hname hcut =>
      obtain ⟨hlast, hparent⟩ := parts_of_cut hcut
      exact ⟨isClassPath_of_cut hmodule hname.nonempty hcut, by rw [hlast, hparent]⟩
  · rintro ⟨hpath, rfl⟩
    by_cases hcolons : "::".toList <:+: path.toList
    · obtain ⟨module, name, hcut⟩ := exists_cut hcolons
      obtain ⟨hlast, hparent⟩ := parts_of_cut hcut
      rw [hlast, hparent]
      exact .inModule (isModulePath_of_cut hpath hcut) (isSimpleName_of_cut hpath hcut) hcut
    · obtain ⟨hlast, hparent⟩ := parts_of_free hcolons
      rw [hlast, hparent]
      exact .alone ⟨hpath.1, hcolons⟩

theorem existsUnique_splitFrom_iff : (∃! names, SplitFrom path names) ↔ IsClassPath path := by
  constructor
  · rintro ⟨names, hnames, -⟩
    exact (splitFrom_iff.1 hnames).1
  · intro hpath
    exact ⟨_, splitFrom_iff.2 ⟨hpath, rfl⟩, fun other hother => (splitFrom_iff.1 hother).2⟩

end ClassNames

/-! ## Paths that entries ask for -/

namespace ClassOptions

variable {o o' : ClassOptions}

theorem exists_apply_path_iff {path : String} :
    (∃ o', o.apply ⟨"type_path", some path⟩ = .ok o') ↔ IsClassPath path := by
  show (∃ o', (if isTypePath path = true then _ else _) = _) ↔ _
  by_cases hpath : IsClassPath path
  · rw [if_pos (isTypePath_iff.2 hpath)]
    exact iff_of_true ⟨_, rfl⟩ hpath
  · rw [if_neg (mt isTypePath_iff.1 hpath)]
    exact iff_of_false (by simp) hpath

theorem isClassPath_of_apply {e : Entry} (h : o.apply e = .ok o')
    (ho : ∀ path ∈ o.typePath, IsClassPath path) : ∀ path ∈ o'.typePath, IsClassPath path := by
  intro path hpath
  rw [(of_apply h).1] at hpath
  split at hpath
  · next hkey =>
    obtain ⟨key, value⟩ := e
    cases hkey
    cases hpath
    exact exists_apply_path_iff.1 ⟨o', h⟩
  · exact ho path hpath

theorem isClassPath_of_entries {entries : List Entry} (h : entries.foldlM apply o = .ok o')
    (ho : ∀ path ∈ o.typePath, IsClassPath path) : ∀ path ∈ o'.typePath, IsClassPath path := by
  induction entries generalizing o with
  | nil =>
    cases h
    exact ho
  | cons e rest ih =>
    rw [List.foldlM_cons] at h
    obtain ⟨next, hfirst, hrest⟩ := Except.bind_eq_ok_iff.1 h
    exact ih hrest (isClassPath_of_apply hfirst ho)

end ClassOptions

/-! ## The names of a class -/

theorem ClassPlan.names_of_typePath {p : ClassPlan} {path : String}
    (h : p.options.typePath = some path) (home : String) :
    p.names home = ⟨path, lastSegment path, parentPath? path⟩ := by
  rw [names, h]

/-- The names are those of the type of the class, which has no type arguments: its identifier is
    its short name. -/
structure ClassDecl.GoesBy (c : ClassDecl) (names : ClassNames) : Prop where
  path : (Ty.object c.id).path = names.path
  name : (Ty.object c.id).name = names.name
  ident : (Ty.object c.id).ident = names.name
  module : c.module = names.module

theorem ClassPlan.goesBy_declare {p : ClassPlan} {path : String}
    (h : p.options.typePath = some path) (home : String) (tyOf : SourceType → Ty)
    (initial : SourceType → Value) (table : List Method) :
    (p.declare home tyOf initial table).GoesBy (p.names home) := by
  have hname : lastSegment (p.names home).path = (p.names home).name := by
    rw [names_of_typePath h]
  exact ⟨rfl, hname, hname, rfl⟩

/-- The texts that are accepted as the path of a class are those that have parts, which are then
    its only ones: a name that is not empty and has no `::` in it, and in front of the last `::`, if
    there is one, a module that is not empty and does not begin with `::`. A class that is given a
    path has the whole path, its name and its module. -/
theorem ClassItem.custom_path_splits_without_loss (path : String) :
    (∀ o : ClassOptions, (∃ o', o.apply ⟨"type_path", some path⟩ = .ok o') ↔
      ∃! names, ClassNames.SplitFrom path names) ∧
    ∀ (item : ClassItem) (p : ClassPlan), item.plan = .ok p →
      lastMeaning? "type_path" Entry.value (entriesOf item.attributes) = some path →
      ∀ home, ClassNames.SplitFrom path (p.names home) ∧ ∀ tyOf initial table,
        (p.declare home tyOf initial table).GoesBy (p.names home) := by
  refine ⟨fun o => ?_, fun item p hplan hlast home => ?_⟩
  · rw [ClassOptions.exists_apply_path_iff, ClassNames.existsUnique_splitFrom_iff]
  · have hentries := options_of_plan hplan
    have htypePath : p.options.typePath = some path := by
      rw [(ClassOptions.of_entries hentries).1, hlast]
    have hpath : IsClassPath path :=
      ClassOptions.isClassPath_of_entries hentries (by rintro _ ⟨⟩) path htypePath
    refine ⟨?_, p.goesBy_declare htypePath home⟩
    rw [ClassNames.splitFrom_iff]
    exact ⟨hpath, p.names_of_typePath htypePath home⟩

/-! ## A path with many colons -/

namespace Sample

/-- An item whose second path has colons at both ends, and three of them in a row. -/
def colonItem : ClassItem :=
  { name := "Parcel", generics := [],
    attributes :=
      [.own [⟨"type_path", some "post::Parcel"⟩, ⟨"clone", none⟩],
        .own [⟨"type_path", some ":post:::Parcel:"⟩]],
    shape := .record [⟨"weight", ⟨"u32"⟩, []⟩] }

/-- The class that it declares. -/
def colonPlan : ClassPlan :=
  { name := "Parcel", options := ⟨some ":post:::Parcel:", false, false, true, none⟩,
    fields := [⟨"weight", ⟨"u32"⟩, .declared⟩] }

/-- Of three colons in a row the last two are the cut, and single ones at the ends stay. Three
    colons at the beginning are not accepted, since the module would be a single one. -/
theorem colons_are_cut_at_last_two :
    colonItem.plan = .ok colonPlan ∧
    lastMeaning? "type_path" Entry.value (entriesOf colonItem.attributes) =
      some ":post:::Parcel:" ∧
    colonPlan.names "home" = ⟨":post:::Parcel:", "Parcel:", some ":post:"⟩ ∧
    ClassNames.SplitFrom ":post:::Parcel:" ⟨":post:::Parcel:", "Parcel:", some ":post:"⟩ ∧
    (colonPlan.declare "home" (fun _ => .int .u32) (fun _ => .int .u32 0) []).GoesBy
      ⟨":post:::Parcel:", "Parcel:", some ":post:"⟩ ∧
    ¬ ∃! names, ClassNames.SplitFrom ":::Parcel" names := by
  have hplan : colonItem.plan = .ok colonPlan := by decide +kernel
  have hlast : lastMeaning? "type_path" Entry.value (entriesOf colonItem.attributes) =
      some ":post:::Parcel:" := by decide
  have hnames : colonPlan.names "home" = ⟨":post:::Parcel:", "Parcel:", some ":post:"⟩ := by
    decide +kernel
  obtain ⟨-, hgiven⟩ := ClassItem.custom_path_splits_without_loss ":post:::Parcel:"
  obtain ⟨hsplit, hgoes⟩ := hgiven colonItem colonPlan hplan hlast "home"
  rw [hnames] at hsplit hgoes
  obtain ⟨haccepted, -⟩ := ClassItem.custom_path_splits_without_loss ":::Parcel"
  refine ⟨hplan, hlast, hnames, hsplit, hgoes _ _ _, ?_⟩
  rw [← haccepted .none]
  rintro ⟨o', ho'⟩
  have hrejected :
      ClassOptions.none.apply ⟨"type_path", some ":::Parcel"⟩ = .error .badTypePath := by
    decide +kernel
  rw [hrejected] at ho'
  cases ho'

end Sample

end ObjectPath
