import ObjectPath.Declaration.ClassItem
import ObjectPath.Proofs.Results
import Mathlib.Data.List.Induction

/-!
# Rules for items that declare classes

The entries of an item and of its fields must be known ones, a path given for the class must look
like one, and the item must be a record without parameters. No field is both the base and hidden,
and at most one is the base. `ClassItem.KeepsRules` says so without an order.

Several rules can be broken at once. `ClassItem.objections` lists what speaks against an item, in
the order of the item's text: its entries, its parameters, its kind, and then field by field, each
with its entries first. The item is rejected with the first objection.

How an entry is written is not in question here: a flag has no text, a setting has one, and where
the traits are found is a path.

Results:
* `FieldItem.plan_cases`, `planFields_cases`: one field, and the fields one after the other.
* `ClassOptions.of_entries`: what the entries of an accepted item ask for.
* `ClassItem.objections_eq_nil_iff`: nothing speaks against an item that keeps the rules.
* `ClassItem.plan_heeds_first_objection`: which items are accepted, and what is reported of others.
-/

namespace ObjectPath

theorem objectionIf_eq_nil_iff {wrong : Prop} [Decidable wrong] {e : DeclarationError} :
    (if wrong then [e] else []) = [] ↔ ¬ wrong := by
  rw [ite_eq_right_iff]
  simp only [reduceCtorEq, imp_false]

theorem objectionUnless_eq_none_iff {right : Prop} [Decidable right] {e : DeclarationError} :
    (if right then none else some e) = none ↔ right := by
  rw [ite_eq_left_iff]
  simp only [reduceCtorEq, imp_false, not_not]

/-! ## Entries of an item -/

/-- The text is not empty, and there is no `::` at either end. -/
def IsClassPath (text : String) : Prop :=
  text ≠ "" ∧ ¬ "::".toList <+: text.toList ∧ ¬ "::".toList <:+ text.toList

instance (text : String) : Decidable (IsClassPath text) :=
  inferInstanceAs (Decidable (_ ∧ _ ∧ _))

theorem isTypePath_iff {text : String} : isTypePath text = true ↔ IsClassPath text := by
  unfold isTypePath IsClassPath
  rw [Bool.and_eq_true, Bool.and_eq_true, Bool.not_eq_true', Bool.not_eq_true', Bool.not_eq_true',
    ← Bool.not_eq_true, ← Bool.not_eq_true, ← Bool.not_eq_true, String.isEmpty_iff,
    List.isPrefixOf_iff_prefix, List.isSuffixOf_iff_suffix, and_assoc]

namespace Entry

/-- The keys of flags and settings of an item. -/
def classKeys : List String := ["type_path", "methods", "auto_register", "clone", "crate_path"]

/-- The entry of an item is known, and if it is a path for the class, it looks like one. -/
def FitsClass (e : Entry) : Prop :=
  e.key ∈ classKeys ∧ (e.key = "type_path" → ∀ text ∈ e.value, IsClassPath text)

/-- The entry of an item is written as its key wants it: a flag alone, a setting with a text, which
    in one case is a path in the source. -/
structure WrittenForClass (e : Entry) : Prop where
  flag : e.key ∈ ["methods", "auto_register", "clone"] → e.value = none
  setting : e.key ∈ ["type_path", "crate_path"] → ∃ text, e.value = some text
  crate : e.key = "crate_path" → ∀ text ∈ e.value, ∃ path, SourcePath.read text = .ok path

/-- What speaks against the entry of an item. -/
def classObjection? (e : Entry) : Option DeclarationError :=
  if e.key ∉ classKeys then some .unknownClassEntry
  else if e.key = "type_path" ∧ ¬ ∀ text ∈ e.value, IsClassPath text then some .badTypePath
  else none

theorem classObjection?_eq_none_iff {e : Entry} : e.classObjection? = none ↔ e.FitsClass := by
  unfold classObjection? FitsClass
  by_cases hkey : e.key ∈ classKeys
  · rw [if_neg (not_not.2 hkey)]
    by_cases hpath : e.key = "type_path" ∧ ¬ ∀ text ∈ e.value, IsClassPath text
    · rw [if_pos hpath]
      exact iff_of_false (by simp) fun h => hpath.2 (h.2 hpath.1)
    · rw [if_neg hpath]
      rw [not_and, not_not] at hpath
      exact ⟨fun _ => ⟨hkey, hpath⟩, fun _ => rfl⟩
  · rw [if_pos hkey]
    exact iff_of_false (by simp) fun h => hkey h.1

theorem flag_eq_ok {α : Type} {e : Entry} (h : e.value = none) (meaning : α) :
    e.flag meaning = .ok meaning := by
  rw [flag, h]
  rfl

theorem setting_eq_ok {e : Entry} {text : String} (h : e.value = some text) :
    e.setting = .ok text := by
  rw [setting, h]

theorem of_flag {α : Type} {e : Entry} {meaning a : α} (h : e.flag meaning = .ok a) :
    a = meaning := by
  unfold flag at h
  split at h
  · cases h
  · exact (Except.ok.inj h).symm

end Entry

/-- The objections to an entry of an item do not depend on the entries in front of it. -/
theorem ClassOptions.apply_cases {e : Entry} (h : e.WrittenForClass) (o : ClassOptions) :
    (∃ err, e.classObjection? = some err ∧ o.apply e = .error err) ∨
      (e.classObjection? = .none ∧ ∃ o', o.apply e = .ok o') := by
  have hfits (hkey : e.key ∈ Entry.classKeys) (hother : e.key ≠ "type_path") :
      e.classObjection? = .none :=
    Entry.classObjection?_eq_none_iff.2 ⟨hkey, fun hpath => absurd hpath hother⟩
  have hflag (hkey : e.key ∈ ["methods", "auto_register", "clone"]) (o' : ClassOptions) :
      e.classObjection? = .none ∧ ∃ o'', e.flag o' = .ok o'' := by
    refine ⟨hfits ?_ ?_, o', Entry.flag_eq_ok (h.flag hkey) o'⟩
    · exact List.mem_of_mem_drop (i := 1) (List.mem_of_mem_take (i := 3) hkey)
    · rintro hpath
      rw [hpath] at hkey
      exact absurd hkey (by decide)
  unfold apply
  split
  · next hkey =>
    obtain ⟨text, hvalue⟩ := h.setting (by simp [hkey])
    rw [Entry.setting_eq_ok hvalue]
    by_cases htext : IsClassPath text
    · right
      refine ⟨Entry.classObjection?_eq_none_iff.2 ⟨by simp [hkey, Entry.classKeys], fun _ => ?_⟩,
        { o with typePath := some text }, ?_⟩
      · rw [hvalue]
        rintro _ ⟨⟩
        exact htext
      · show (if isTypePath text = true then _ else _) = _
        rw [if_pos (isTypePath_iff.2 htext)]
    · left
      refine ⟨.badTypePath, ?_, ?_⟩
      · have hbad : ¬ ∀ text ∈ e.value, IsClassPath text := fun hall => htext (hall text hvalue)
        rw [Entry.classObjection?, if_neg (by simp [hkey, Entry.classKeys]), if_pos ⟨hkey, hbad⟩]
      · show (if isTypePath text = true then _ else _) = _
        rw [if_neg (mt isTypePath_iff.1 htext)]
  · next hkey => exact .inr (hflag (by simp [hkey]) _)
  · next hkey => exact .inr (hflag (by simp [hkey]) _)
  · next hkey => exact .inr (hflag (by simp [hkey]) _)
  · next hkey =>
    obtain ⟨text, hvalue⟩ := h.setting (by simp [hkey])
    obtain ⟨path, hpath⟩ := h.crate hkey text hvalue
    rw [Entry.setting_eq_ok hvalue]
    refine .inr ⟨hfits (by simp [hkey, Entry.classKeys]) (by simp [hkey]),
      { o with cratePath := some path }, ?_⟩
    show (SourcePath.read text >>= _) = _
    rw [hpath]
    rfl
  · next htype hmethods hauto hclone hcrate =>
    left
    refine ⟨.unknownClassEntry, ?_, rfl⟩
    rw [Entry.classObjection?, if_pos]
    simp only [Entry.classKeys, List.mem_cons, List.not_mem_nil, or_false, not_or]
    exact ⟨htype, hmethods, hauto, hclone, hcrate⟩

theorem foldl_or_eq_any {α : Type} (asks : α → Bool) (items : List α) (b : Bool) :
    items.foldl (fun asked a => asked || asks a) b = (b || items.any asks) := by
  induction items generalizing b with
  | nil => rw [List.foldl_nil, List.any_nil, Bool.or_false]
  | cons a rest ih => rw [List.foldl_cons, ih, List.any_cons, Bool.or_assoc]

/-- What the last entry with the key means, if it means anything. -/
def lastMeaning? {α : Type} (key : String) (meaning? : Entry → Option α) (entries : List Entry) :
    Option α :=
  (entries.reverse.find? (·.key == key)).bind meaning?

/-- If each entry with the key replaces what was asked for before, the last one stands. -/
theorem foldl_eq_elim {α : Type} (key : String) (meaning? : Entry → Option α)
    (entries : List Entry) (first : Option α) :
    entries.foldl (fun asked e => if e.key = key then meaning? e else asked) first =
      (entries.reverse.find? (·.key == key)).elim first meaning? := by
  induction entries using List.reverseRecOn with
  | nil => rfl
  | append_singleton front e ih =>
    rw [List.foldl_append, List.reverse_append, List.foldl_cons, List.foldl_nil, ih,
      List.reverse_singleton, List.singleton_append, List.find?_cons]
    by_cases hkey : e.key = key
    · rw [if_pos hkey, beq_iff_eq.2 hkey]
      rfl
    · rw [if_neg hkey, beq_eq_false_iff_ne.2 hkey]

theorem foldl_eq_lastMeaning? {α : Type} (key : String) (meaning? : Entry → Option α)
    (entries : List Entry) :
    entries.foldl (fun asked e => if e.key = key then meaning? e else asked) none =
      lastMeaning? key meaning? entries := by
  rw [foldl_eq_elim, lastMeaning?]
  cases entries.reverse.find? (·.key == key) <;> rfl

/-- The path that the text of an entry is. -/
def Entry.readPath? (e : Entry) : Option SourcePath :=
  e.value.bind fun text => (SourcePath.read text).toOption

namespace ClassOptions

variable {o o' : ClassOptions}

theorem of_apply {e : Entry} (h : o.apply e = .ok o') :
    o'.typePath = (if e.key = "type_path" then e.value else o.typePath) ∧
    o'.cratePath = (if e.key = "crate_path" then e.readPath? else o.cratePath) ∧
    o'.methods = (o.methods || e.key == "methods") ∧
    o'.autoRegister = (o.autoRegister || e.key == "auto_register") ∧
    o'.clone = (o.clone || e.key == "clone") := by
  unfold apply at h
  split at h
  · next hkey =>
    cases hvalue : e.value with
    | none =>
      rw [Entry.setting, hvalue] at h
      cases h
    | some text =>
      rw [Entry.setting_eq_ok hvalue] at h
      change (if isTypePath text = true then _ else _) = _ at h
      split at h
      · cases h
        simp [hkey]
      · cases h
  · next hkey =>
    rw [Entry.of_flag h]
    simp [hkey]
  · next hkey =>
    rw [Entry.of_flag h]
    simp [hkey]
  · next hkey =>
    rw [Entry.of_flag h]
    simp [hkey]
  · next hkey =>
    cases hvalue : e.value with
    | none =>
      rw [Entry.setting, hvalue] at h
      cases h
    | some text =>
      rw [Entry.setting_eq_ok hvalue] at h
      change (SourcePath.read text >>= _) = _ at h
      cases hread : SourcePath.read text with
      | error err =>
        rw [hread] at h
        cases h
      | ok path =>
        rw [hread] at h
        cases h
        simp [hkey, Entry.readPath?, hvalue, hread, Except.toOption]
  · cases h

/-- Flags are asked for by any entry, and of several settings for one key the last one stands. -/
theorem of_entries {entries : List Entry} (h : entries.foldlM apply .none = .ok o) :
    o.typePath = lastMeaning? "type_path" Entry.value entries ∧
    o.cratePath = lastMeaning? "crate_path" Entry.readPath? entries ∧
    o.methods = entries.any (·.key == "methods") ∧
    o.autoRegister = entries.any (·.key == "auto_register") ∧
    o.clone = entries.any (·.key == "clone") := by
  refine ⟨?_, ?_, ?_, ?_, ?_⟩
  · rw [← foldl_eq_lastMeaning?]
    exact Except.foldlM_aspect typePath _ (fun _ _ _ hstep => (of_apply hstep).1) h
  · rw [← foldl_eq_lastMeaning?]
    exact Except.foldlM_aspect cratePath _ (fun _ _ _ hstep => (of_apply hstep).2.1) h
  · rw [Except.foldlM_aspect methods (fun asked e => asked || e.key == "methods")
      (fun _ _ _ hstep => (of_apply hstep).2.2.1) h]
    exact foldl_or_eq_any _ entries false
  · rw [Except.foldlM_aspect autoRegister (fun asked e => asked || e.key == "auto_register")
      (fun _ _ _ hstep => (of_apply hstep).2.2.2.1) h]
    exact foldl_or_eq_any _ entries false
  · rw [Except.foldlM_aspect clone (fun asked e => asked || e.key == "clone")
      (fun _ _ _ hstep => (of_apply hstep).2.2.2.2) h]
    exact foldl_or_eq_any _ entries false

end ClassOptions

/-! ## Entries of a field -/

namespace Entry

/-- What speaks against the entry of a field. -/
def fieldObjection? (e : Entry) : Option DeclarationError :=
  if e.key = "extends" ∨ e.key = "ignore" then none else some .unknownFieldEntry

theorem fieldObjection?_eq_none_iff {e : Entry} :
    e.fieldObjection? = none ↔ e.key = "extends" ∨ e.key = "ignore" :=
  objectionUnless_eq_none_iff

end Entry

namespace FieldOptions

variable {entries : List Entry} {o o' : FieldOptions}

theorem apply_cases {e : Entry}
    (h : e.key = "extends" ∨ e.key = "ignore" → e.value = none) (o : FieldOptions) :
    (∃ err, e.fieldObjection? = some err ∧ o.apply e = .error err) ∨
      (e.fieldObjection? = none ∧ ∃ o', o.apply e = .ok o') := by
  unfold apply
  split
  · next hkey =>
    rw [Entry.flag_eq_ok (h (.inl hkey))]
    exact .inr ⟨Entry.fieldObjection?_eq_none_iff.2 (.inl hkey), _, rfl⟩
  · next hkey =>
    rw [Entry.flag_eq_ok (h (.inr hkey))]
    exact .inr ⟨Entry.fieldObjection?_eq_none_iff.2 (.inr hkey), _, rfl⟩
  · next hextends hignore =>
    left
    refine ⟨.unknownFieldEntry, ?_, rfl⟩
    rw [Entry.fieldObjection?, if_neg (not_or.2 ⟨hextends, hignore⟩)]

/-- One more entry adds what it asks for. -/
theorem of_apply {e : Entry} (h : o.apply e = .ok o') :
    o'.isBase = (o.isBase || e.key == "extends") ∧
      o'.isIgnored = (o.isIgnored || e.key == "ignore") := by
  unfold apply at h
  split at h
  · next hkey =>
    rw [Entry.of_flag h]
    simp [hkey]
  · next hkey =>
    rw [Entry.of_flag h]
    simp [hkey]
  · cases h

/-- Entries ask for what one of them asks for. -/
theorem of_entries (h : entries.foldlM apply ⟨false, false⟩ = .ok o) :
    o = ⟨entries.any (·.key == "extends"), entries.any (·.key == "ignore")⟩ := by
  have hbase := Except.foldlM_aspect isBase (fun asked e => asked || e.key == "extends")
    (fun _ _ _ hstep => (of_apply hstep).1) h
  have hignored := Except.foldlM_aspect isIgnored (fun asked e => asked || e.key == "ignore")
    (fun _ _ _ hstep => (of_apply hstep).2) h
  rw [foldl_or_eq_any, Bool.false_or] at hbase
  rw [foldl_or_eq_any, Bool.false_or] at hignored
  rw [← hbase, ← hignored]

end FieldOptions

/-! ## Fields -/

namespace FieldItem

variable {f : FieldItem}

/-- The field has an entry with the key. -/
def Carries (f : FieldItem) (key : String) : Prop := ∃ e ∈ entriesOf f.attributes, e.key = key

instance (f : FieldItem) (key : String) : Decidable (f.Carries key) :=
  inferInstanceAs (Decidable (∃ e ∈ entriesOf f.attributes, e.key = key))

/-- The flags of the field are written without texts. -/
def WrittenWell (f : FieldItem) : Prop :=
  ∀ e ∈ entriesOf f.attributes, e.key = "extends" ∨ e.key = "ignore" → e.value = none

instance (f : FieldItem) : Decidable f.WrittenWell :=
  inferInstanceAs (Decidable (∀ e ∈ entriesOf f.attributes, _ → _))

/-- What the field is for, by its entries. -/
def markedRole (f : FieldItem) : Role :=
  if f.Carries "extends" then .base else if f.Carries "ignore" then .ignored else .declared

/-- The field with the role it is marked for. -/
def planned (f : FieldItem) : PlannedField := ⟨plainName f.name, f.type, f.markedRole⟩

/-- What speaks against the field, other fields apart. -/
def objections (f : FieldItem) : List DeclarationError :=
  (entriesOf f.attributes).filterMap Entry.fieldObjection? ++
    if f.Carries "extends" ∧ f.Carries "ignore" then [.ignoredBase] else []

theorem any_key (f : FieldItem) (key : String) :
    (entriesOf f.attributes).any (·.key == key) = decide (f.Carries key) := by
  rw [Bool.eq_iff_iff, List.any_eq_true, decide_eq_true_eq]
  simp only [beq_iff_eq]
  rfl

/-- The entries of a field give it its role, unless they ask for two. -/
theorem plan_of_entries {o : FieldOptions}
    (h : (entriesOf f.attributes).foldlM FieldOptions.apply ⟨false, false⟩ = .ok o) :
    f.plan = if f.Carries "extends" ∧ f.Carries "ignore" then .error .ignoredBase
      else .ok f.planned := by
  have hrole := FieldOptions.of_entries h
  rw [any_key, any_key] at hrole
  unfold plan planned markedRole
  rw [h, hrole]
  by_cases hbase : f.Carries "extends"
  · by_cases hignored : f.Carries "ignore"
    · simp [hbase, hignored, FieldOptions.role, bind, Except.bind]
    · simp [hbase, hignored, FieldOptions.role, bind, Except.bind]
  · by_cases hignored : f.Carries "ignore"
    · simp [hbase, hignored, FieldOptions.role, bind, Except.bind]
    · simp [hbase, hignored, FieldOptions.role, bind, Except.bind]

/-- A field is rejected with the first objection, or gets the role it is marked for. -/
theorem plan_cases (h : f.WrittenWell) :
    (∃ e rest, f.objections = e :: rest ∧ f.plan = .error e) ∨
      (f.objections = [] ∧ f.plan = .ok f.planned) := by
  unfold objections
  rcases Except.foldlM_cases (fun e he o => FieldOptions.apply_cases (h e he) o) ⟨false, false⟩ with
    ⟨e, rest, hlist, hfails⟩ | ⟨hnone, o, hreads⟩
  · left
    rw [hlist]
    refine ⟨e, _, rfl, ?_⟩
    rw [plan, hfails]
    rfl
  · rw [hnone, List.nil_append, plan_of_entries hreads]
    by_cases hboth : f.Carries "extends" ∧ f.Carries "ignore"
    · rw [if_pos hboth, if_pos hboth]
      exact .inl ⟨_, [], rfl, rfl⟩
    · rw [if_neg hboth, if_neg hboth]
      exact .inr ⟨rfl, rfl⟩

theorem objections_eq_nil_iff : f.objections = [] ↔
    (∀ e ∈ entriesOf f.attributes, e.key = "extends" ∨ e.key = "ignore") ∧
      ¬ (f.Carries "extends" ∧ f.Carries "ignore") := by
  rw [objections, List.append_eq_nil_iff, List.filterMap_eq_nil_iff, objectionIf_eq_nil_iff]
  simp only [Entry.fieldObjection?_eq_none_iff]

/-- An accepted field has the role it is marked for, and is marked for one only. -/
theorem of_plan {field : PlannedField} (h : f.plan = .ok field) :
    field = f.planned ∧ ¬ (f.Carries "extends" ∧ f.Carries "ignore") := by
  cases hreads : (entriesOf f.attributes).foldlM FieldOptions.apply ⟨false, false⟩ with
  | error e =>
    rw [plan, hreads] at h
    cases h
  | ok o =>
    rw [plan_of_entries hreads] at h
    by_cases hboth : f.Carries "extends" ∧ f.Carries "ignore"
    · rw [if_pos hboth] at h
      cases h
    · rw [if_neg hboth, Except.ok.injEq] at h
      exact ⟨h.symm, hboth⟩

theorem role_planned_iff : f.planned.role = .base ↔ f.Carries "extends" := by
  unfold planned markedRole
  by_cases hbase : f.Carries "extends"
  · rw [if_pos hbase]
    exact ⟨fun _ => hbase, fun _ => rfl⟩
  · rw [if_neg hbase]
    refine ⟨fun h => ?_, fun h => absurd h hbase⟩
    split at h <;> cases h

end FieldItem

/-! ## Fields one after the other -/

/-- The field is the base, and so is one of those in front of it. -/
def IsSecondBase (earlier : List FieldItem) (f : FieldItem) : Prop :=
  f.Carries "extends" ∧ ∃ g ∈ earlier, g.Carries "extends"

instance (earlier : List FieldItem) (f : FieldItem) : Decidable (IsSecondBase earlier f) :=
  inferInstanceAs (Decidable (_ ∧ _))

/-- What speaks against the fields, which stand behind some others. -/
def fieldObjections : List FieldItem → List FieldItem → List DeclarationError
  | _, [] => []
  | earlier, f :: rest =>
    f.objections ++ ((if IsSecondBase earlier f then [.secondBase] else []) ++
      fieldObjections (earlier ++ [f]) rest)

/-- One field in front of others is planned, unless it is a second base. -/
theorem planFields_cons {f : FieldItem} (hplan : f.plan = .ok f.planned)
    (earlier rest : List FieldItem) :
    planFields (decide (∃ g ∈ earlier, g.Carries "extends")) (f :: rest) =
      if IsSecondBase earlier f then .error .secondBase
      else (planFields (decide (∃ g ∈ earlier ++ [f], g.Carries "extends")) rest).map
        (f.planned :: ·) := by
  have hsecond : (f.planned.role = .base ∧ decide (∃ g ∈ earlier, g.Carries "extends") = true) ↔
      IsSecondBase earlier f := by
    rw [FieldItem.role_planned_iff, decide_eq_true_eq]
    rfl
  -- the fields behind this one stand behind one more base if it is the base
  have hseen : (decide (∃ g ∈ earlier, g.Carries "extends") || decide (f.planned.role = .base)) =
      decide (∃ g ∈ earlier ++ [f], g.Carries "extends") := by
    rw [Bool.eq_iff_iff]
    simp only [Bool.or_eq_true, decide_eq_true_eq, FieldItem.role_planned_iff, List.mem_append,
      List.mem_singleton, or_and_right, exists_or, exists_eq_left]
  rw [planFields, hplan, ← hseen]
  show (if _ then _ else _) = _
  by_cases htwo : IsSecondBase earlier f
  · rw [if_pos htwo, if_pos (hsecond.2 htwo)]
  · rw [if_neg htwo, if_neg (mt hsecond.1 htwo)]
    rfl

theorem planFields_cases {fields : List FieldItem} (h : ∀ f ∈ fields, f.WrittenWell)
    (earlier : List FieldItem) :
    (∃ e rest, fieldObjections earlier fields = e :: rest ∧
      planFields (decide (∃ g ∈ earlier, g.Carries "extends")) fields = .error e) ∨
    (fieldObjections earlier fields = [] ∧
      planFields (decide (∃ g ∈ earlier, g.Carries "extends")) fields =
        .ok (fields.map FieldItem.planned)) := by
  induction fields generalizing earlier with
  | nil => exact .inr ⟨rfl, rfl⟩
  | cons f rest ih =>
    obtain ⟨hf, hrest⟩ := List.forall_mem_cons.1 h
    rw [fieldObjections]
    rcases FieldItem.plan_cases hf with ⟨e, others, hlist, hfails⟩ | ⟨hnone, hplan⟩
    · rw [hlist, planFields, hfails]
      exact .inl ⟨e, _, rfl, rfl⟩
    · rw [hnone, List.nil_append, planFields_cons hplan]
      by_cases htwo : IsSecondBase earlier f
      · rw [if_pos htwo, if_pos htwo]
        exact .inl ⟨.secondBase, _, rfl, rfl⟩
      · rw [if_neg htwo, if_neg htwo, List.nil_append]
        rcases ih hrest (earlier ++ [f]) with ⟨e, others, hlist, hfails⟩ | ⟨hlist, hgoes⟩
        · rw [hlist, hfails]
          exact .inl ⟨e, others, rfl, rfl⟩
        · rw [hlist, hgoes]
          exact .inr ⟨rfl, rfl⟩

/-- Nothing speaks against the fields if their entries are known, none is marked both for the base
    and as hidden, and at most one of them is the base, counting those in front. -/
theorem fieldObjections_eq_nil_iff {earlier fields : List FieldItem} :
    fieldObjections earlier fields = [] ↔
      (∀ f ∈ fields, ∀ e ∈ entriesOf f.attributes, e.key = "extends" ∨ e.key = "ignore") ∧
      (∀ f ∈ fields, ¬ (f.Carries "extends" ∧ f.Carries "ignore")) ∧
      (∀ f ∈ fields, ¬ IsSecondBase earlier f) ∧
      fields.Pairwise fun f g => ¬ (f.Carries "extends" ∧ g.Carries "extends") := by
  induction fields generalizing earlier with
  | nil => simp [fieldObjections]
  | cons f rest ih =>
    have hbehind : (∀ g ∈ rest, ¬ IsSecondBase (earlier ++ [f]) g) ↔
        (∀ g ∈ rest, ¬ IsSecondBase earlier g) ∧
          ∀ g ∈ rest, ¬ (f.Carries "extends" ∧ g.Carries "extends") := by
      rw [← forall₂_and]
      refine forall₂_congr fun g _ => ?_
      simp only [IsSecondBase, List.mem_append, List.mem_singleton, or_and_right, exists_or,
        exists_eq_left, and_or_left, not_or, and_comm]
    rw [fieldObjections, List.append_eq_nil_iff, List.append_eq_nil_iff,
      FieldItem.objections_eq_nil_iff, objectionIf_eq_nil_iff, ih, hbehind, List.pairwise_cons,
      List.forall_mem_cons, List.forall_mem_cons, List.forall_mem_cons]
    tauto

/-! ## Items -/

/-- The fields keep the rules: their entries are known, none is marked both for the base and as
    hidden, and no two are marked for the base. -/
structure FieldsKeepRules (fields : List FieldItem) : Prop where
  known : ∀ f ∈ fields, ∀ e ∈ entriesOf f.attributes, e.key = "extends" ∨ e.key = "ignore"
  single : ∀ f ∈ fields, ¬ (f.Carries "extends" ∧ f.Carries "ignore")
  oneBase : fields.Pairwise fun f g => ¬ (f.Carries "extends" ∧ g.Carries "extends")

namespace ClassItem

variable {item : ClassItem}

/-- The item keeps the rules: its entries fit, it has no parameters, and it is a record whose fields
    keep the rules. -/
structure KeepsRules (item : ClassItem) : Prop where
  entries : ∀ e ∈ entriesOf item.attributes, e.FitsClass
  plain : item.generics = []
  record : ∃ fields, item.shape = .record fields ∧ FieldsKeepRules fields

/-- The entries of the item and of its fields are written as their keys want it. -/
structure WrittenWell (item : ClassItem) : Prop where
  entries : ∀ e ∈ entriesOf item.attributes, e.WrittenForClass
  fields : ∀ fields, item.shape = .record fields → ∀ f ∈ fields, f.WrittenWell

/-- What speaks against the kind of the item, and against its fields if it has any. -/
def shapeObjections : Shape → List DeclarationError
  | .record fields => fieldObjections [] fields
  | _ => [.notARecord]

/-- All that speaks against the item, in the order of its text. -/
def objections (item : ClassItem) : List DeclarationError :=
  (entriesOf item.attributes).filterMap Entry.classObjection? ++
    ((if item.generics ≠ [] then [.genericClass] else []) ++ shapeObjections item.shape)

theorem shapeObjections_eq_nil_iff {shape : Shape} :
    shapeObjections shape = [] ↔ ∃ fields, shape = .record fields ∧ FieldsKeepRules fields := by
  cases shape with
  | record fields =>
    have hnone : ∀ f ∈ fields, ¬ IsSecondBase [] f := by
      rintro f - ⟨-, g, hg, -⟩
      cases hg
    rw [shapeObjections, fieldObjections_eq_nil_iff]
    constructor
    · rintro ⟨hknown, hsingle, -, hbase⟩
      exact ⟨fields, rfl, hknown, hsingle, hbase⟩
    · rintro ⟨_, ⟨⟩, hknown, hsingle, hbase⟩
      exact ⟨hknown, hsingle, hnone, hbase⟩
  | _ => simp [shapeObjections]

theorem objections_eq_nil_iff : item.objections = [] ↔ item.KeepsRules := by
  rw [objections, List.append_eq_nil_iff, List.append_eq_nil_iff, List.filterMap_eq_nil_iff,
    objectionIf_eq_nil_iff, not_not, shapeObjections_eq_nil_iff]
  simp only [Entry.classObjection?_eq_none_iff]
  exact ⟨fun ⟨hentries, hplain, hrecord⟩ => ⟨hentries, hplain, hrecord⟩,
    fun ⟨hentries, hplain, hrecord⟩ => ⟨hentries, hplain, hrecord⟩⟩

theorem plan_of_entries {o : ClassOptions}
    (h : (entriesOf item.attributes).foldlM ClassOptions.apply .none = .ok o) :
    item.plan = if item.generics ≠ [] then .error .genericClass else
      match item.shape with
      | .record fields =>
        (planFields false fields).map fun planned => ⟨plainName item.name, o, planned⟩
      | _ => .error .notARecord := by
  unfold plan
  rw [h]
  cases item.shape <;> rfl

/-- An item is rejected with the first objection, or declares a class. -/
theorem plan_cases (h : item.WrittenWell) :
    (∃ e rest, item.objections = e :: rest ∧ item.plan = .error e) ∨
      (item.objections = [] ∧ ∃ p, item.plan = .ok p) := by
  unfold objections
  rcases Except.foldlM_cases (fun e he o => ClassOptions.apply_cases (h.entries e he) o)
      ClassOptions.none with ⟨e, rest, hlist, hfails⟩ | ⟨hnone, o, hreads⟩
  · left
    rw [hlist]
    refine ⟨e, _, rfl, ?_⟩
    rw [plan, hfails]
    rfl
  rw [hnone, List.nil_append, plan_of_entries hreads]
  by_cases hgeneric : item.generics ≠ []
  · rw [if_pos hgeneric, if_pos hgeneric]
    exact .inl ⟨_, _, rfl, rfl⟩
  rw [if_neg hgeneric, if_neg hgeneric, List.nil_append]
  cases hshape : item.shape with
  | record fields =>
    have hstart : decide (∃ g ∈ ([] : List FieldItem), g.Carries "extends") = false := by simp
    have hcases := planFields_cases (h.fields fields hshape) []
    rw [hstart] at hcases
    rcases hcases with ⟨e, rest, hlist, hfails⟩ | ⟨hlist, hgoes⟩
    · left
      refine ⟨e, rest, hlist, ?_⟩
      show (planFields false fields).map _ = _
      rw [hfails]
      rfl
    · right
      refine ⟨hlist, ⟨plainName item.name, o, fields.map FieldItem.planned⟩, ?_⟩
      show (planFields false fields).map _ = _
      rw [hgoes]
      rfl
  | _ => exact .inl ⟨_, [], rfl, rfl⟩

/-- The options of an accepted item are what its entries ask for. -/
theorem options_of_plan {p : ClassPlan} (h : item.plan = .ok p) :
    (entriesOf item.attributes).foldlM ClassOptions.apply .none = .ok p.options := by
  cases hreads : (entriesOf item.attributes).foldlM ClassOptions.apply .none with
  | error e =>
    rw [plan, hreads] at h
    cases h
  | ok o =>
    rw [plan_of_entries hreads] at h
    split at h
    · cases h
    · split at h
      · obtain ⟨planned, -, rfl⟩ := Except.map_eq_ok_iff.1 h
        rfl
      · cases h

/-- An item declares a class if and only if it keeps the rules, no matter how its entries are
    repeated and grouped. If it breaks some of them, the first objection is reported: to an entry of
    the item, to its parameters, to its kind, or to a field, and there to one of its entries, to its
    two roles, or to its being a second base. Of several paths for the class, or for the traits, the
    last one counts. -/
theorem plan_heeds_first_objection (h : item.WrittenWell) :
    ((∃ p, item.plan = .ok p) ↔ item.KeepsRules) ∧
    (∀ e, item.plan = .error e ↔ item.objections.head? = some e) ∧
    ∀ p, item.plan = .ok p →
      p.options.typePath = lastMeaning? "type_path" Entry.value (entriesOf item.attributes) ∧
      p.options.cratePath =
        lastMeaning? "crate_path" Entry.readPath? (entriesOf item.attributes) ∧
      (p.options.methods = true ↔ ∃ e ∈ entriesOf item.attributes, e.key = "methods") ∧
      (p.options.autoRegister = true ↔ ∃ e ∈ entriesOf item.attributes, e.key = "auto_register") ∧
      (p.options.clone = true ↔ ∃ e ∈ entriesOf item.attributes, e.key = "clone") := by
  refine ⟨?_, fun e => ?_, fun p hp => ?_⟩
  · rw [← objections_eq_nil_iff]
    rcases plan_cases h with ⟨e, rest, hlist, hfails⟩ | ⟨hlist, hgoes⟩
    · rw [hlist, hfails]
      simp
    · rw [hlist]
      exact iff_of_true hgoes rfl
  · rcases plan_cases h with ⟨first, rest, hlist, hfails⟩ | ⟨hlist, p, hgoes⟩
    · rw [hlist, hfails, List.head?_cons, Except.error.injEq, Option.some.injEq]
    · rw [hlist, hgoes]
      simp
  · obtain ⟨htype, hcrate, hmethods, hauto, hclone⟩ :=
      ClassOptions.of_entries (options_of_plan hp)
    refine ⟨htype, hcrate, ?_, ?_, ?_⟩
    · rw [hmethods, List.any_eq_true]
      simp only [beq_iff_eq]
    · rw [hauto, List.any_eq_true]
      simp only [beq_iff_eq]
    · rw [hclone, List.any_eq_true]
      simp only [beq_iff_eq]

end ClassItem

/-! ## A parcel, and one with too many marks -/

namespace Sample

/-- An item with a base, a hidden field, and entries of which some are repeated. -/
def parcel : ClassItem :=
  { name := "Parcel", generics := [],
    attributes :=
      [.own [⟨"type_path", some "post::Box"⟩, ⟨"methods", none⟩], .other "derive(Debug)",
        .own [⟨"type_path", some "post::Parcel"⟩, ⟨"methods", none⟩,
          ⟨"crate_path", some "::refpath::reflect"⟩]],
    shape := .record
      [⟨"item", ⟨"Item"⟩, [.own [⟨"extends", none⟩, ⟨"extends", none⟩]]⟩,
        ⟨"r#type", ⟨"String"⟩, [.other "doc"]⟩,
        ⟨"seen", ⟨"bool"⟩, [.own [⟨"ignore", none⟩], .own [⟨"ignore", none⟩]]⟩,
        ⟨"weight", ⟨"u32"⟩, []⟩] }

/-- The item with one field more, against which three things speak. -/
def overmarkedParcel : ClassItem :=
  { parcel with
    shape := .record
      [⟨"item", ⟨"Item"⟩, [.own [⟨"extends", none⟩]]⟩,
        ⟨"spare", ⟨"Item"⟩, [.own [⟨"ignore", none⟩], .own [⟨"extends", none⟩]]⟩,
        ⟨"weight", ⟨"u32"⟩, [.own [⟨"heavy", some "yes"⟩]]⟩] }

theorem entries_parcel_written : ∀ e ∈ entriesOf parcel.attributes, e.WrittenForClass := by
  have hread : SourcePath.read "::refpath::reflect" = .ok ⟨"::refpath::reflect"⟩ := by
    decide +kernel
  have hpath (text : String) : (Entry.mk "type_path" (some text)).WrittenForClass := by
    refine ⟨fun hflag => ?_, fun _ => ⟨text, rfl⟩, fun hcrate => ?_⟩
    · exact absurd (show "type_path" ∈ ["methods", "auto_register", "clone"] from hflag) (by decide)
    · exact absurd (show "type_path" = "crate_path" from hcrate) (by decide)
  have hmethods : (Entry.mk "methods" none).WrittenForClass :=
    ⟨fun _ => rfl, fun hsetting => absurd hsetting (by decide), fun _ => nofun⟩
  have hcrate : (Entry.mk "crate_path" (some "::refpath::reflect")).WrittenForClass := by
    refine ⟨fun hflag => absurd hflag (by decide), fun _ => ⟨_, rfl⟩, fun _ => ?_⟩
    rintro _ ⟨⟩
    exact ⟨_, hread⟩
  show ∀ e ∈ [_, _, _, _, _], _
  simp only [List.forall_mem_cons]
  exact ⟨hpath _, hmethods, hpath _, hmethods, hcrate, nofun⟩

/-- The parcel is accepted, under the last path that it gives. Of the marks that are too many, the
    two roles of the second field are reported. -/
theorem overmarked_parcel_is_rejected :
    parcel.WrittenWell ∧ parcel.KeepsRules ∧
      (∃ p, parcel.plan = .ok p ∧ p.options.typePath = some "post::Parcel") ∧
    overmarkedParcel.WrittenWell ∧
      overmarkedParcel.objections = [.ignoredBase, .secondBase, .unknownFieldEntry] ∧
      overmarkedParcel.plan = .error .ignoredBase := by
  have hparcel : parcel.WrittenWell := by
    refine ⟨entries_parcel_written, ?_⟩
    rintro _ ⟨⟩
    decide
  have hmarked : overmarkedParcel.WrittenWell := by
    refine ⟨entries_parcel_written, ?_⟩
    rintro _ ⟨⟩
    decide
  have hlist : overmarkedParcel.objections = [.ignoredBase, .secondBase, .unknownFieldEntry] := by
    decide
  obtain ⟨hiff, -, hoptions⟩ := ClassItem.plan_heeds_first_objection hparcel
  obtain ⟨-, hfirst, -⟩ := ClassItem.plan_heeds_first_objection hmarked
  have hkeeps : parcel.KeepsRules := ClassItem.objections_eq_nil_iff.1 (by decide)
  obtain ⟨p, hp⟩ := hiff.2 hkeeps
  refine ⟨hparcel, hkeeps, ⟨p, hp, ?_⟩, hmarked, hlist, (hfirst _).2 ?_⟩
  · rw [(hoptions p hp).1]
    decide
  · rw [hlist]
    rfl

end Sample

end ObjectPath
