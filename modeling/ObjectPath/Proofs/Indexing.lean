import ObjectPath.Proofs.Registration

/-!
# Names and paths of registered classes

Lookups are answered from indices that grow with the registered types. A short name is indexed when
its first type comes, taken out of the index and marked as ambiguous when the second one comes, and
left alone from then on. So at any time the indices say what the list of registered types says: the
name is in the index if one type has it, and marked if several have it. A full path always leads to
the last type that has it. Only for this last rule does the order of registration count.

Results:
* `Registry.Indexed`: the indices say what the registered types say.
* `Registry.Indexed.insert`, `Registry.Registers.indexed`: one new type, and a whole registration,
  keep it so.
* `Registry.Indexed.isAmbiguous_iff`, `Registry.Indexed.ofName?_iff`,
  `Registry.Indexed.ofPath?_iff`, `Registry.Indexed.resolve?_iff`: the answers in terms of the set
  of registered types.
* `Registration.lookups_follow_types`: the same after any history of operations.
-/

namespace ObjectPath

/-- The item of a list of one. -/
def sole? {α : Type} : List α → Option α
  | [a] => some a
  | _ => none

theorem sole?_eq_some_iff {α : Type} {items : List α} {a : α} :
    sole? items = some a ↔ items = [a] := by
  rcases items with _ | ⟨b, _ | ⟨c, rest⟩⟩ <;> simp [sole?]

namespace Registry

variable {G : ClassGraph} {r s after : Registry} {ty : Ty} {waiting : List Ty}

/-! ## One new type -/

theorem lookup_cons_eq (name key : String) (ty : Ty) (index : List (String × Ty)) :
    ((key, ty) :: index).lookup name = if name = key then some ty else index.lookup name := by
  by_cases h : name = key
  · simp [h]
  · have hkey : (name == key) = false := beq_false_of_ne h
    rw [List.lookup_cons, hkey, if_neg h]

/-- Taking entries out by their keys takes these keys out and no others. -/
theorem lookup_filter_keys (keep : String → Bool) (name : String) (index : List (String × Ty)) :
    (index.filter fun entry => keep entry.1).lookup name =
      if keep name then index.lookup name else none := by
  induction index with
  | nil => simp
  | cons entry rest ih =>
    obtain ⟨key, ty⟩ := entry
    by_cases h : name = key
    · subst h
      cases hkeep : keep name <;> simp [hkeep, ih]
    · cases hkeep : keep key <;> simp [hkeep, ih, lookup_cons_eq, h]

/-- What a new type does to the names: nothing if its name is ambiguous already; if one other type
    has the name, it becomes ambiguous; and if none has it, it leads to the new type. -/
theorem insert_cases (r : Registry) (ty : Ty) :
    (r.isAmbiguous ty.name = true ∧
      (∀ name, (r.insert ty).ofName? name = r.ofName? name) ∧
      ∀ name, (r.insert ty).isAmbiguous name = r.isAmbiguous name) ∨
    (r.isAmbiguous ty.name = false ∧ (r.ofName? ty.name).isSome = true ∧
      (∀ name, (r.insert ty).ofName? name = if name = ty.name then none else r.ofName? name) ∧
      ∀ name, (r.insert ty).isAmbiguous name = (name == ty.name || r.isAmbiguous name)) ∨
    (r.isAmbiguous ty.name = false ∧ r.ofName? ty.name = none ∧
      (∀ name, (r.insert ty).ofName? name = if name = ty.name then some ty else r.ofName? name) ∧
      ∀ name, (r.insert ty).isAmbiguous name = r.isAmbiguous name) := by
  unfold isAmbiguous ofName? insert
  by_cases hambiguous : r.ambiguous.contains ty.name = true
  · refine .inl ⟨hambiguous, fun name => ?_, fun name => ?_⟩ <;> rw [if_pos hambiguous]
  · have hunambiguous := Bool.eq_false_iff.2 hambiguous
    cases hindexed : r.byName.lookup ty.name with
    | some old =>
      refine .inr (.inl ⟨hunambiguous, rfl, fun name => ?_, fun name => ?_⟩)
      · rw [if_neg hambiguous, if_pos Option.isSome_some]
        simpa [ite_not] using lookup_filter_keys (· != ty.name) name r.byName
      · rw [if_neg hambiguous, if_pos Option.isSome_some, List.contains_cons]
    | none =>
      refine .inr (.inr ⟨hunambiguous, rfl, fun name => ?_, fun name => ?_⟩)
      · rw [if_neg hambiguous, if_neg (by simp)]
        exact lookup_cons_eq name ty.name ty r.byName
      · rw [if_neg hambiguous, if_neg (by simp)]

theorem ofPath?_insert (path : String) :
    (r.insert ty).ofPath? path = if path = ty.path then some ty else r.ofPath? path :=
  lookup_cons_eq path ty.path ty r.byPath

/-! ## What the indices say -/

/-- The registered types of that short name. -/
def named (r : Registry) (name : String) : List Ty := r.types.filter fun ty => ty.name = name

/-- The registered types of that full path. -/
def pathed (r : Registry) (path : String) : List Ty := r.types.filter fun ty => ty.path = path

theorem mem_named_iff {name : String} :
    ty ∈ r.named name ↔ r.contains ty = true ∧ ty.name = name := by
  rw [named, List.mem_filter, contains_iff, decide_eq_true_iff]

theorem mem_pathed_iff {path : String} :
    ty ∈ r.pathed path ↔ r.contains ty = true ∧ ty.path = path := by
  rw [pathed, List.mem_filter, contains_iff, decide_eq_true_iff]

theorem named_insert (name : String) :
    (r.insert ty).named name = r.named name ++ if ty.name = name then [ty] else [] := by
  show (r.types ++ [ty]).filter _ = _
  rw [List.filter_append, named]
  by_cases h : ty.name = name <;> simp [h]

theorem pathed_insert (path : String) :
    (r.insert ty).pathed path = r.pathed path ++ if ty.path = path then [ty] else [] := by
  show (r.types ++ [ty]).filter _ = _
  rw [List.filter_append, pathed]
  by_cases h : ty.path = path <;> simp [h]

/-- The indices say what the registered types say: a short name leads to its only type and is
    ambiguous if it has more than one; a full path leads to its last type. -/
structure Indexed (r : Registry) : Prop where
  nodup : r.types.Nodup
  ofName?_eq : ∀ name, r.ofName? name = sole? (r.named name)
  isAmbiguous_eq : ∀ name, r.isAmbiguous name = decide (1 < (r.named name).length)
  ofPath?_eq : ∀ path, r.ofPath? path = (r.pathed path).getLast?

theorem indexed_empty : Indexed .empty where
  nodup := List.nodup_nil
  ofName?_eq _ := rfl
  isAmbiguous_eq _ := rfl
  ofPath?_eq _ := rfl

/-- The answers for a name follow the types that have it: none, one, or several. -/
theorem Indexed.answers_insert (h : r.Indexed) (ty : Ty) (name : String) :
    (r.insert ty).ofName? name = sole? ((r.insert ty).named name) ∧
      (r.insert ty).isAmbiguous name = decide (1 < ((r.insert ty).named name).length) := by
  have hof := h.ofName?_eq name
  have hambiguous := h.isAmbiguous_eq name
  rw [named_insert]
  by_cases hname : name = ty.name
  · subst hname
    rcases hnamed : r.named ty.name with _ | ⟨first, _ | ⟨second, rest⟩⟩ <;>
      rw [hnamed] at hof hambiguous
    case nil =>
      obtain ⟨hold, -⟩ | ⟨-, hold, -⟩ | ⟨-, -, hof', hambiguous'⟩ := insert_cases r ty
      · simp [hambiguous] at hold
      · simp [hof, sole?] at hold
      · simp [hof', hambiguous', hambiguous, sole?]
    case cons.nil =>
      obtain ⟨hold, -⟩ | ⟨-, -, hof', hambiguous'⟩ | ⟨-, hold, -⟩ := insert_cases r ty
      · simp [hambiguous] at hold
      · simp [hof', hambiguous', sole?]
      · simp [hof, sole?] at hold
    case cons.cons =>
      obtain ⟨-, hof', hambiguous'⟩ | ⟨hold, -⟩ | ⟨hold, -⟩ := insert_cases r ty
      · simp [hof', hambiguous', hof, hambiguous, sole?]
      · simp [hambiguous] at hold
      · simp [hambiguous] at hold
  · have hother : ty.name ≠ name := Ne.symm hname
    rw [if_neg hother, List.append_nil, ← hof, ← hambiguous]
    obtain ⟨-, hof', hambiguous'⟩ | ⟨-, -, hof', hambiguous'⟩ | ⟨-, -, hof', hambiguous'⟩ :=
      insert_cases r ty <;>
      simp [hof', hambiguous', hname]

/-- A new type is indexed along with those before it. -/
theorem Indexed.insert (h : r.Indexed) (hnew : r.contains ty = false) : (r.insert ty).Indexed where
  nodup := nodup_insert h.nodup hnew
  ofName?_eq name := (h.answers_insert ty name).1
  isAmbiguous_eq name := (h.answers_insert ty name).2
  ofPath?_eq path := by
    rw [ofPath?_insert, pathed_insert, h.ofPath?_eq]
    by_cases hpath : path = ty.path
    · simp [hpath]
    · simp [hpath, Ne.symm hpath]

theorem Registers.indexed (h : Registers G waiting r after) (hr : r.Indexed) : after.Indexed :=
  h.keeps (fun _ _ hnew hindexed => hindexed.insert hnew) hr

theorem indexed_performAll (G : ClassGraph) (history : List Registration) :
    (Registration.performAll G history).Indexed :=
  (registers_performAll G history).indexed indexed_empty

/-! ## What the set of registered types says -/

/-- The only registered type of that short name. -/
def IsOnlyNamed (r : Registry) (name : String) (ty : Ty) : Prop :=
  r.contains ty = true ∧ ty.name = name ∧
    ∀ other, r.contains other = true → other.name = name → other = ty

/-- Different registered types have different full paths. -/
def PathsDiffer (r : Registry) : Prop :=
  ∀ a b, r.contains a = true → r.contains b = true → a.path = b.path → a = b

theorem Indexed.isAmbiguous_iff (h : r.Indexed) (name : String) :
    r.isAmbiguous name = true ↔ ∃ a b, a ≠ b ∧ (r.contains a = true ∧ a.name = name) ∧
      r.contains b = true ∧ b.name = name := by
  have hnodup : (r.named name).Nodup := h.nodup.filter _
  rw [h.isAmbiguous_eq, decide_eq_true_iff, ← List.toFinset_card_of_nodup hnodup,
    Finset.one_lt_card]
  simp only [List.mem_toFinset, mem_named_iff]
  constructor
  · rintro ⟨a, ha, b, hb, hne⟩
    exact ⟨a, b, hne, ha, hb⟩
  · rintro ⟨a, b, hne, ha, hb⟩
    exact ⟨a, ha, b, hb, hne⟩

theorem Indexed.ofName?_iff (h : r.Indexed) (name : String) (ty : Ty) :
    r.ofName? name = some ty ↔ r.IsOnlyNamed name ty := by
  have hnodup : (r.named name).Nodup := h.nodup.filter _
  rw [h.ofName?_eq, sole?_eq_some_iff]
  constructor
  · intro hnamed
    have hmem (other : Ty) : r.contains other = true ∧ other.name = name ↔ other = ty := by
      rw [← mem_named_iff, hnamed, List.mem_singleton]
    obtain ⟨hcontains, hname⟩ := (hmem ty).2 rfl
    exact ⟨hcontains, hname, fun other hother hsame => (hmem other).1 ⟨hother, hsame⟩⟩
  · rintro ⟨hcontains, hname, honly⟩
    rw [← List.perm_singleton, List.perm_ext_iff_of_nodup hnodup (List.nodup_singleton ty)]
    intro other
    rw [mem_named_iff, List.mem_singleton]
    constructor
    · rintro ⟨hother, hsame⟩
      exact honly other hother hsame
    · rintro rfl
      exact ⟨hcontains, hname⟩

theorem Indexed.ofPath?_iff (h : r.Indexed) (hpaths : r.PathsDiffer) (path : String) (ty : Ty) :
    r.ofPath? path = some ty ↔ r.contains ty = true ∧ ty.path = path := by
  rw [h.ofPath?_eq]
  constructor
  · intro hlast
    exact mem_pathed_iff.1 (List.mem_of_getLast? hlast)
  · intro hty
    have hne : r.pathed path ≠ [] := List.ne_nil_of_mem (mem_pathed_iff.2 hty)
    obtain ⟨last, hlast⟩ : ∃ last, (r.pathed path).getLast? = some last :=
      ⟨_, List.getLast?_eq_some_getLast hne⟩
    obtain ⟨hcontains, hpath⟩ := mem_pathed_iff.1 (List.mem_of_getLast? hlast)
    rw [hlast, hpaths last ty hcontains hty.1 (hpath.trans hty.2.symm)]

theorem Indexed.ofPath?_eq_none_iff (h : r.Indexed) (path : String) :
    r.ofPath? path = none ↔ ∀ other, r.contains other = true → other.path ≠ path := by
  rw [h.ofPath?_eq, List.getLast?_eq_none_iff, List.eq_nil_iff_forall_not_mem]
  refine forall_congr' fun other => ?_
  rw [mem_pathed_iff, not_and]

theorem Indexed.resolve?_iff (h : r.Indexed) (hpaths : r.PathsDiffer) (name : String) (ty : Ty) :
    r.resolve? name = some ty ↔ (r.contains ty = true ∧ ty.path = name) ∨
      (∀ other, r.contains other = true → other.path ≠ name) ∧ r.IsOnlyNamed name ty := by
  rw [resolve?, Option.or_eq_some_iff, h.ofPath?_iff hpaths, h.ofPath?_eq_none_iff,
    h.ofName?_iff]

/-! ## Registries of the same types -/

theorem isOnlyNamed_congr (hsame : ∀ ty, r.contains ty = s.contains ty) (name : String) (ty : Ty) :
    r.IsOnlyNamed name ty ↔ s.IsOnlyNamed name ty := by
  simp only [IsOnlyNamed, hsame]

theorem PathsDiffer.congr (hsame : ∀ ty, r.contains ty = s.contains ty) (h : r.PathsDiffer) :
    s.PathsDiffer := by
  simpa only [PathsDiffer, hsame] using h

theorem Indexed.isAmbiguous_congr (hr : r.Indexed) (hs : s.Indexed)
    (hsame : ∀ ty, r.contains ty = s.contains ty) (name : String) :
    r.isAmbiguous name = s.isAmbiguous name := by
  rw [Bool.eq_iff_iff, hr.isAmbiguous_iff, hs.isAmbiguous_iff]
  simp only [hsame]

theorem Indexed.ofName?_congr (hr : r.Indexed) (hs : s.Indexed)
    (hsame : ∀ ty, r.contains ty = s.contains ty) (name : String) :
    r.ofName? name = s.ofName? name := by
  ext ty
  rw [hr.ofName?_iff, hs.ofName?_iff, isOnlyNamed_congr hsame]

theorem Indexed.ofPath?_congr (hr : r.Indexed) (hs : s.Indexed)
    (hsame : ∀ ty, r.contains ty = s.contains ty) (hpaths : r.PathsDiffer) (path : String) :
    r.ofPath? path = s.ofPath? path := by
  ext ty
  rw [hr.ofPath?_iff hpaths, hs.ofPath?_iff (hpaths.congr hsame), hsame]

end Registry

namespace Registration

/-- After any history of operations, a short name is ambiguous exactly if several registered types
    have it, and it finds a type exactly if that is the only one. If different registered types
    have different full paths, a path finds the type that has it, and a name finds the type of that
    path or else the only type of that short name. So the answers do not depend on the history, but
    only on which types are registered in the end. -/
theorem lookups_follow_types (G : ClassGraph) (history : List Registration) :
    (∀ name, (performAll G history).isAmbiguous name = true ↔
      ∃ a b, a ≠ b ∧ ((performAll G history).contains a = true ∧ a.name = name) ∧
        (performAll G history).contains b = true ∧ b.name = name) ∧
    (∀ name ty, (performAll G history).ofName? name = some ty ↔
      (performAll G history).IsOnlyNamed name ty) ∧
    ((performAll G history).PathsDiffer →
      (∀ path ty, (performAll G history).ofPath? path = some ty ↔
        (performAll G history).contains ty = true ∧ ty.path = path) ∧
      ∀ name ty, (performAll G history).resolve? name = some ty ↔
        ((performAll G history).contains ty = true ∧ ty.path = name) ∨
          (∀ other, (performAll G history).contains other = true → other.path ≠ name) ∧
            (performAll G history).IsOnlyNamed name ty) ∧
    ∀ other, (∀ ty, (performAll G history).contains ty = (performAll G other).contains ty) →
      (∀ name, (performAll G history).isAmbiguous name = (performAll G other).isAmbiguous name ∧
        (performAll G history).ofName? name = (performAll G other).ofName? name) ∧
      ((performAll G history).PathsDiffer → ∀ name,
        (performAll G history).ofPath? name = (performAll G other).ofPath? name ∧
          (performAll G history).resolve? name = (performAll G other).resolve? name) := by
  have hindexed := Registry.indexed_performAll G history
  refine ⟨hindexed.isAmbiguous_iff, hindexed.ofName?_iff, fun hpaths => ⟨?paths, ?names⟩, ?same⟩
  case paths => exact hindexed.ofPath?_iff hpaths
  case names => exact hindexed.resolve?_iff hpaths
  case same =>
    intro other hsame
    have hother := Registry.indexed_performAll G other
    have hnames := hindexed.ofName?_congr hother hsame
    refine ⟨fun name => ⟨hindexed.isAmbiguous_congr hother hsame name, hnames name⟩, ?_⟩
    intro hpaths name
    have hpath := hindexed.ofPath?_congr hother hsame hpaths name
    refine ⟨hpath, ?_⟩
    rw [Registry.resolve?, Registry.resolve?, hpath, hnames]

/-! ## Items of three modules -/

/-- Three classes with one short name are registered. The last of them is in no module, so the name
    is also its full path. -/
def items : List Registration :=
  [.register Gallery.shopItem.objects, .register Gallery.yardItem.objects,
   .register Gallery.bareItem.objects]

/-- A class whose only field refers to nothing else is registered along with the field's type. -/
theorem registers_with_field (G : ClassGraph) (r : Registry) (ty field : Ty)
    (hty : (G.classOf ty).dependencies = [field]) (hfield : (G.classOf field).dependencies = [])
    (hnew : r.contains ty = false) (hnewField : (r.insert ty).contains field = false) :
    Registry.Registers G [ty] r ((r.insert ty).insert field) := by
  refine .fresh hnew ?_ (.done _)
  rw [hty]
  refine .fresh hnewField ?_ (.done _)
  rw [hfield]
  exact .done _

theorem types_of_items :
    (performAll gallery items).types =
      [Gallery.shopItem.objects, .int .u32, Gallery.yardItem.objects, .char,
       Gallery.bareItem.objects, .int .i8] := by
  have hshop := registers_with_field gallery .empty Gallery.shopItem.objects (.int .u32)
    (by decide +kernel) (by decide +kernel) (by decide +kernel) (by decide +kernel)
  have hyard := registers_with_field gallery
    ([Gallery.shopItem.objects, .int .u32].foldl Registry.insert .empty)
    Gallery.yardItem.objects .char
    (by decide +kernel) (by decide +kernel) (by decide +kernel) (by decide +kernel)
  have hbare := registers_with_field gallery
    ([Gallery.shopItem.objects, .int .u32, Gallery.yardItem.objects, .char].foldl Registry.insert
      .empty)
    Gallery.bareItem.objects (.int .i8)
    (by decide +kernel) (by decide +kernel) (by decide +kernel) (by decide +kernel)
  rw [(Registry.registers_performAll gallery items).unique (hshop.append (hyard.append hbare))]
  decide +kernel

theorem pathsDiffer_items : (performAll gallery items).PathsDiffer := by
  have hall : ∀ a ∈ (performAll gallery items).types, ∀ b ∈ (performAll gallery items).types,
      a.path = b.path → a = b := by
    rw [types_of_items]
    decide +kernel
  intro a b ha hb
  exact hall a (Registry.contains_iff.1 ha) b (Registry.contains_iff.1 hb)

theorem contains_items_reverse (ty : Ty) :
    (performAll gallery items).contains ty = (performAll gallery items.reverse).contains ty := by
  rw [Bool.eq_iff_iff, Registry.contains_iff, Registry.contains_iff,
    (Registry.registers_performAll gallery items).mem_iff_of_empty,
    (Registry.registers_performAll gallery items.reverse).mem_iff_of_empty]
  simp only [List.mem_flatMap, List.mem_reverse]

/-- The short name of the three items finds the one whose full path it is, in whichever order they
    were registered, although it is ambiguous. -/
theorem items_are_found_in_any_order :
    (performAll gallery items).isAmbiguous "Item" = true ∧
    (performAll gallery items.reverse).ofName? "Item" = none ∧
    (performAll gallery items.reverse).resolve? "Item" = some Gallery.bareItem.objects ∧
    (performAll gallery items.reverse).ofPath? "yard::deep::Item" =
      some Gallery.yardItem.objects := by
  have hmem {ty : Ty} (h : ty ∈ [Gallery.shopItem.objects, .int .u32, Gallery.yardItem.objects,
      .char, Gallery.bareItem.objects, .int .i8]) : (performAll gallery items).contains ty = true :=
    Registry.contains_iff.2 (types_of_items ▸ h)
  have hbare := hmem (by decide +kernel : Gallery.bareItem.objects ∈ _)
  have hyard := hmem (by decide +kernel : Gallery.yardItem.objects ∈ _)
  obtain ⟨hambiguous, hnames, hpaths, hsame⟩ := lookups_follow_types gallery items
  obtain ⟨hofPath, hresolve⟩ := hpaths pathsDiffer_items
  obtain ⟨hsameNames, hsamePaths⟩ := hsame items.reverse contains_items_reverse
  obtain ⟨hpath, -⟩ := hsamePaths pathsDiffer_items "yard::deep::Item"
  obtain ⟨-, hname⟩ := hsamePaths pathsDiffer_items "Item"
  have htwo : (performAll gallery items).isAmbiguous "Item" = true :=
    (hambiguous "Item").2 ⟨_, _, by decide +kernel, ⟨hbare, by decide +kernel⟩, hyard,
      by decide +kernel⟩
  refine ⟨htwo, ?_, ?_, ?_⟩
  · rw [← (hsameNames "Item").2, Option.eq_none_iff_forall_ne_some]
    intro ty hty
    obtain ⟨-, -, honly⟩ := (hnames "Item" ty).1 hty
    have heq := (honly _ hbare (by decide +kernel)).trans (honly _ hyard (by decide +kernel)).symm
    exact absurd heq (by decide +kernel)
  · rw [← hname]
    exact (hresolve "Item" _).2 (.inl ⟨hbare, by decide +kernel⟩)
  · rw [← hpath]
    exact (hofPath _ _).2 ⟨hyard, by decide +kernel⟩

end Registration

end ObjectPath
