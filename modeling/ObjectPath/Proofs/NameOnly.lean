import ObjectPath.Log
import ObjectPath.Gallery
import ObjectPath.Proofs.Lookup

/-!
# Methods chosen by name

Both modes of lookup take the first method of a class that accepts the arguments. They differ on the
base classes of a class that has none: the legacy mode stops at the nearest base that declares the
name, and takes the first method of that name there, whether it accepts the arguments or not.

So the legacy mode never goes further up, and it finds the method that the other mode finds, or one
that does not accept the arguments. It warns in the second case.

Results:
* `Schema.findUp_nearer`, `Schema.findUp_of_nearer`: two searches of which one finds something
  wherever the other does.
* `Schema.legacy_of_own`, `Schema.legacy_of_base`, `Schema.legacy_of_no_base`: the legacy mode as a
  search from the base class on.
* `Schema.isShortcut_legacy`: what the legacy mode finds.
* `Schema.warnings_eq_nil_iff`: when a mode warns.
* `Schema.name_only_warns_iff_it_differs`: the two modes compared.
-/

namespace ObjectPath

/-! ## One class -/

namespace Class

variable {c : Class} {name : String} {types : List Ty} {m : Method}

/-- The first declared method of the name, whatever its parameters. -/
def firstNamed? (c : Class) (name : String) : Option Method := (c.methodsNamed name).head?

theorem exists_firstNamed? (h : c.method? name types = some m) :
    ∃ first, c.firstNamed? name = some first := by
  have hmem : m ∈ c.methodsNamed name := List.mem_of_find?_eq_some h
  obtain ⟨first, rest, hnamed⟩ := List.exists_cons_of_ne_nil (List.ne_nil_of_mem hmem)
  exact ⟨first, by rw [firstNamed?, hnamed, List.head?_cons]⟩

theorem method?_of_firstNamed? (h : c.firstNamed? name = some m)
    (haccepts : m.accepts types = true) : c.method? name types = some m := by
  obtain ⟨rest, hnamed⟩ := List.head?_eq_some_iff.1 h
  rw [method?, hnamed]
  exact List.find?_cons_of_pos haccepts

end Class

namespace Schema

variable {S : Schema} {ty : Ty}

/-! ## Two searches -/

/-- Induction along base classes, which end with a class that has none. -/
@[elab_as_elim]
theorem inductionOnBases {motive : Ty → Prop}
    (root : ∀ ty, (S.classOf ty).base = none → motive ty)
    (extend : ∀ ty b, (S.classOf ty).base = some b → motive b.ty → motive ty) (ty : Ty) :
    motive ty := by
  induction hrank : S.rank ty using Nat.strongRecOn generalizing ty with
  | ind rank ih =>
    cases hbase : (S.classOf ty).base with
    | none => exact root ty hbase
    | some b => exact extend ty b hbase (ih _ (hrank ▸ rank_base_lt_rank hbase) b.ty rfl)

section

variable {α : Type} {search first : Class → Option α} {found : Found α}

theorem findUp_of_no_base (hbase : (S.classOf ty).base = none) (search : Class → Option α) :
    S.findUp ty search = (search (S.classOf ty)).map fun member => ⟨ty, 0, member⟩ := by
  rw [findUp, ancestors, lineage_of_no_base hbase]
  cases h : search (S.classOf ty) <;> simp [h]

theorem eq_none_of_first (hfirst : ∀ c m, search c = some m → ∃ n, first c = some n) {c : Class}
    (h : first c = none) : search c = none := by
  cases hsearch : search c with
  | none => rfl
  | some m =>
    obtain ⟨n, hn⟩ := hfirst c m hsearch
    rw [h] at hn
    cases hn

/-- A search that finds something wherever another one does, finds something at the same level or
    further down. -/
theorem findUp_nearer (hfirst : ∀ c m, search c = some m → ∃ n, first c = some n)
    (h : S.findUp ty search = some found) :
    ∃ nearer, S.findUp ty first = some nearer ∧ nearer.depth ≤ found.depth := by
  induction ty using S.inductionOnBases generalizing found with
  | root ty hbase =>
    rw [findUp_of_no_base hbase, Option.map_eq_some_iff] at h
    obtain ⟨m, hm, rfl⟩ := h
    obtain ⟨n, hn⟩ := hfirst _ m hm
    exact ⟨_, findUp_of_own hn, Nat.le_refl 0⟩
  | extend ty b hbase ih =>
    cases hown : first (S.classOf ty) with
    | some n => exact ⟨_, findUp_of_own hown, Nat.zero_le _⟩
    | none =>
      rw [findUp_of_base hbase (eq_none_of_first hfirst hown), Option.map_eq_some_iff] at h
      obtain ⟨above, habove, rfl⟩ := h
      obtain ⟨nearer, hnearer, hdepth⟩ := ih habove
      refine ⟨nearer.fromBelow, ?_, Nat.succ_le_succ hdepth⟩
      rw [findUp_of_base hbase hown, hnearer, Option.map_some]

/-- What such a search finds, the other one finds too, if it finds it on the same class. -/
theorem findUp_of_nearer (hfirst : ∀ c m, search c = some m → ∃ n, first c = some n)
    (h : S.findUp ty first = some found)
    (hsame : search (S.classOf found.owner) = some found.member) :
    S.findUp ty search = some found := by
  induction ty using S.inductionOnBases generalizing found with
  | root ty hbase =>
    rw [findUp_of_no_base hbase, Option.map_eq_some_iff] at h
    obtain ⟨n, -, rfl⟩ := h
    exact findUp_of_own hsame
  | extend ty b hbase ih =>
    cases hown : first (S.classOf ty) with
    | some n =>
      rw [findUp_of_own hown] at h
      obtain rfl := Option.some.inj h
      exact findUp_of_own hsame
    | none =>
      rw [findUp_of_base hbase hown, Option.map_eq_some_iff] at h
      obtain ⟨above, habove, rfl⟩ := h
      rw [findUp_of_base hbase (eq_none_of_first hfirst hown), ih habove hsame, Option.map_some]

end

/-! ## Two modes -/

variable {name : String} {types : List Ty} {m : Method}

theorem legacy_of_own (hown : (S.classOf ty).method? name types = some m) :
    S.resolveMethod .nameOnly ty name types = some ⟨ty, 0, m⟩ := by
  rw [resolveMethod]
  simp only [hown]

theorem legacy_of_no_base (hbase : (S.classOf ty).base = none)
    (hown : (S.classOf ty).method? name types = none) :
    S.resolveMethod .nameOnly ty name types = none := by
  rw [resolveMethod, ancestors, lineage_of_no_base hbase]
  simp only [hown]
  rfl

/-- What the class has no method for, is looked for by its name alone from the base class on. -/
theorem legacy_of_base {b : Member} (hbase : (S.classOf ty).base = some b)
    (hown : (S.classOf ty).method? name types = none) :
    S.resolveMethod .nameOnly ty name types =
      (S.findUp b.ty (·.firstNamed? name)).map Found.fromBelow := by
  rw [resolveMethod, ancestors_of_base hbase]
  simp only [hown]
  rw [List.zipIdx_cons, List.drop_one, List.tail_cons, List.zipIdx_succ, List.findSome?_map,
    findUp, List.map_findSome?]
  congr 1
  funext entry
  simp [Class.firstNamed?, Found.fromBelow, Function.comp_def]

/-- The first of two results is the second one, and accepts the arguments; or it does not accept
    them, and is at the same level as the second one or further down. -/
def IsShortcut (types : List Ty) (legacy aware : Option (Found Method)) : Prop :=
  (legacy = aware ∧ ∀ found, legacy = some found → found.member.accepts types = true) ∨
    ∃ nearest, legacy = some nearest ∧ nearest.member.accepts types = false ∧
      ∀ found, aware = some found → nearest.depth ≤ found.depth

theorem IsShortcut.fromBelow {legacy aware : Option (Found Method)}
    (h : IsShortcut types legacy aware) :
    IsShortcut types (legacy.map Found.fromBelow) (aware.map Found.fromBelow) := by
  rcases h with ⟨rfl, haccepts⟩ | ⟨nearest, rfl, hrefuses, hdepth⟩
  · refine .inl ⟨rfl, fun found hfound => ?_⟩
    obtain ⟨above, habove, rfl⟩ := Option.map_eq_some_iff.1 hfound
    exact haccepts above habove
  · refine .inr ⟨nearest.fromBelow, rfl, hrefuses, fun found hfound => ?_⟩
    obtain ⟨above, habove, rfl⟩ := Option.map_eq_some_iff.1 hfound
    exact Nat.succ_le_succ (hdepth above habove)

/-- A search for the name alone, and one for a method of the name that accepts the arguments. -/
theorem isShortcut_named (S : Schema) (ty : Ty) (name : String) (types : List Ty) :
    IsShortcut types (S.findUp ty (·.firstNamed? name)) (S.findUp ty (·.method? name types)) := by
  have hfirst : ∀ (c : Class) m, c.method? name types = some m →
      ∃ n, c.firstNamed? name = some n := fun _ _ => Class.exists_firstNamed?
  cases hnamed : S.findUp ty (·.firstNamed? name) with
  | none =>
    cases haware : S.findUp ty (·.method? name types) with
    | none => exact .inl ⟨rfl, fun _ h => absurd h.symm (Option.some_ne_none _)⟩
    | some found =>
      obtain ⟨nearer, hnearer, -⟩ := findUp_nearer hfirst haware
      rw [hnamed] at hnearer
      cases hnearer
  | some nearest =>
    cases haccepts : nearest.member.accepts types with
    | true =>
      have hsame := Class.method?_of_firstNamed? (of_findUp hnamed).2 haccepts
      rw [findUp_of_nearer hfirst hnamed hsame]
      refine .inl ⟨rfl, fun found hfound => ?_⟩
      obtain rfl := Option.some.inj hfound
      exact haccepts
    | false =>
      refine .inr ⟨nearest, rfl, haccepts, fun found hfound => ?_⟩
      obtain ⟨nearer, hnearer, hdepth⟩ := findUp_nearer hfirst hfound
      obtain rfl := Option.some.inj (hnamed.symm.trans hnearer)
      exact hdepth

theorem isShortcut_legacy (S : Schema) (ty : Ty) (name : String) (types : List Ty) :
    IsShortcut types (S.resolveMethod .nameOnly ty name types)
      (S.resolveMethod .typeAware ty name types) := by
  cases hown : (S.classOf ty).method? name types with
  | some m =>
    rw [legacy_of_own hown, resolveMethod, findUp_of_own hown]
    refine .inl ⟨rfl, fun found hfound => ?_⟩
    obtain rfl := Option.some.inj hfound
    exact (of_method? hown).2
  | none =>
    cases hbase : (S.classOf ty).base with
    | none =>
      rw [legacy_of_no_base hbase hown, resolveMethod, findUp_of_no_base hbase, hown]
      exact .inl ⟨rfl, fun _ h => absurd h.symm (Option.some_ne_none _)⟩
    | some b =>
      rw [legacy_of_base hbase hown, resolveMethod, findUp_of_base hbase hown]
      exact (S.isShortcut_named b.ty name types).fromBelow

/-- What the type-aware mode finds, accepts the arguments. -/
theorem accepts_of_typeAware {found : Found Method}
    (h : S.resolveMethod .typeAware ty name types = some found) :
    found.member.accepts types = true := by
  rw [resolveMethod] at h
  obtain ⟨-, hmethod⟩ := of_findUp h
  exact (of_method? hmethod).2

/-- A method that does not accept the arguments is not what the type-aware mode finds. -/
theorem typeAware_ne_of_refuses {nearest : Found Method}
    (hrefuses : nearest.member.accepts types = false) :
    S.resolveMethod .typeAware ty name types ≠ some nearest := by
  intro h
  rw [accepts_of_typeAware h] at hrefuses
  cases hrefuses

/-! ## Warnings -/

/-- What accepts the arguments is not warned about. -/
theorem warnings_of_accepts {found? : Option (Found Method)}
    (h : ∀ found, found? = some found → found.member.accepts types = true) (lookup : Lookup)
    (name : String) : lookup.warnings name types found? = [] := by
  cases found? with
  | none => rfl
  | some found => simp [Lookup.warnings, h found rfl]

theorem warnings_of_refuses {nearest : Found Method}
    (h : nearest.member.accepts types = false) (name : String) :
    Lookup.nameOnly.warnings name types (some nearest) =
      [.chosenByName nearest.owner.path name types] := by
  simp [Lookup.warnings, h]

/-- Whatever the mode, there is no warning exactly if the type-aware mode finds the same. -/
theorem warnings_eq_nil_iff (S : Schema) (lookup : Lookup) (ty : Ty) (name : String)
    (types : List Ty) :
    lookup.warnings name types (S.resolveMethod lookup ty name types) = [] ↔
      S.resolveMethod lookup ty name types = S.resolveMethod .typeAware ty name types := by
  cases lookup with
  | typeAware =>
    exact iff_of_true (warnings_of_accepts (fun _ => accepts_of_typeAware) _ _) rfl
  | nameOnly =>
    rcases S.isShortcut_legacy ty name types with ⟨hsame, haccepts⟩ |
      ⟨nearest, hlegacy, hrefuses, -⟩
    · exact iff_of_true (warnings_of_accepts haccepts _ _) hsame
    · rw [hlegacy, warnings_of_refuses hrefuses]
      exact iff_of_false (List.cons_ne_nil _ _) (typeAware_ne_of_refuses hrefuses).symm

/-- The legacy mode warns, once and about the method that it finds, exactly if it does not find what
    the type-aware mode finds. It finds a method wherever the other mode does, at the same level or
    further down; and if that method accepts the arguments, then it is the other mode's. -/
theorem name_only_warns_iff_it_differs (S : Schema) (ty : Ty) (name : String) (types : List Ty) :
    (Lookup.nameOnly.warnings name types (S.resolveMethod .nameOnly ty name types) = [] ↔
      S.resolveMethod .nameOnly ty name types = S.resolveMethod .typeAware ty name types) ∧
    (S.resolveMethod .nameOnly ty name types ≠ S.resolveMethod .typeAware ty name types →
      ∃ found, S.resolveMethod .nameOnly ty name types = some found ∧
        Lookup.nameOnly.warnings name types (S.resolveMethod .nameOnly ty name types) =
          [.chosenByName found.owner.path name types]) ∧
    (∀ found, S.resolveMethod .typeAware ty name types = some found →
      ∃ nearest, S.resolveMethod .nameOnly ty name types = some nearest ∧
        nearest.depth ≤ found.depth) ∧
    ∀ found, S.resolveMethod .nameOnly ty name types = some found →
      found.member.accepts types = true →
        S.resolveMethod .typeAware ty name types = some found := by
  refine ⟨S.warnings_eq_nil_iff .nameOnly ty name types, ?_⟩
  rcases S.isShortcut_legacy ty name types with ⟨hsame, -⟩ | ⟨nearest, hlegacy, hrefuses, hdepth⟩
  · rw [hsame]
    exact ⟨fun hdiffer => absurd rfl hdiffer, fun found hfound => ⟨found, hfound, Nat.le_refl _⟩,
      fun found hfound _ => hfound⟩
  · rw [hlegacy]
    refine ⟨fun _ => ⟨nearest, rfl, warnings_of_refuses hrefuses name⟩,
      fun found hfound => ⟨nearest, rfl, hdepth found hfound⟩, fun found hfound haccepts => ?_⟩
    obtain rfl := Option.some.inj hfound
    rw [hrefuses] at haccepts
    cases haccepts

/-- Puppies learn numbers, one level up from runts, and dogs learn tricks, two levels up. The legacy
    mode finds the puppies' method for tricks as well, and warns. -/
theorem runts_learn_as_puppies :
    (∃ taught nearest,
      gallery.resolveMethod .typeAware Gallery.runt.objects "learn" [.string] = some taught ∧
      gallery.resolveMethod .nameOnly Gallery.runt.objects "learn" [.string] = some nearest ∧
      nearest.depth < taught.depth ∧
      Lookup.nameOnly.warnings "learn" [.string] (some nearest) =
        [.chosenByName nearest.owner.path "learn" [.string]]) ∧
    ∃ found,
      gallery.resolveMethod .nameOnly Gallery.runt.objects "learn" [.int .u8] = some found ∧
      gallery.resolveMethod .typeAware Gallery.runt.objects "learn" [.int .u8] = some found := by
  have htaught : (gallery.resolveMethod .typeAware Gallery.runt.objects "learn" [.string]).map
      Found.depth = some 2 := by decide +kernel
  have hnearest : (gallery.resolveMethod .nameOnly Gallery.runt.objects "learn" [.string]).map
      Found.depth = some 1 := by decide +kernel
  have hnumber : (gallery.resolveMethod .nameOnly Gallery.runt.objects "learn" [.int .u8]).map
      (·.member.accepts [.int .u8]) = some true := by decide +kernel
  have hdiffer : gallery.resolveMethod .nameOnly Gallery.runt.objects "learn" [.string] ≠
      gallery.resolveMethod .typeAware Gallery.runt.objects "learn" [.string] := by
    intro hsame
    rw [hsame, htaught] at hnearest
    cases hnearest
  obtain ⟨-, hwarns, -, -⟩ :=
    gallery.name_only_warns_iff_it_differs Gallery.runt.objects "learn" [.string]
  obtain ⟨-, -, -, hsame⟩ :=
    gallery.name_only_warns_iff_it_differs Gallery.runt.objects "learn" [.int .u8]
  obtain ⟨nearest, hnear, hwarning⟩ := hwarns hdiffer
  obtain ⟨taught, hfound, htwo⟩ := Option.map_eq_some_iff.1 htaught
  obtain ⟨found, hnumbered, haccepts⟩ := Option.map_eq_some_iff.1 hnumber
  rw [hnear] at hnearest hwarning
  have hdepth : nearest.depth < taught.depth := by
    rw [htwo, Option.some.inj hnearest]
    decide
  exact ⟨⟨taught, nearest, hfound, hnear, hdepth, hwarning⟩,
    found, hnumbered, hsame found hnumbered haccepts⟩

end Schema

end ObjectPath
