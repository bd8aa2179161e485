import ObjectPath.Proofs.Indexing

/-!
# Paths of generic types

The path of an optional type or of a vector type is the path of the type inside, between an opening
text and a closing bracket. The paths of the types inside may have brackets too, in whatever order:
classes choose their paths freely. Brackets do not have to match for two paths to be told apart,
because every path ends in one closing bracket for each opening text that was put in front. So the
outermost opening text and the last bracket can be taken off both paths at once, and what is left
are two paths of types that are nested less deeply. It ends at types that are not built from others,
whose paths must differ and must not begin like that of a generic type.

Results:
* `Ty.BuiltFrom`: any nesting of optional and vector types over given ones.
* `Ty.TellApart`: what is asked of the given types.
* `Ty.TellApart.injOn`: the types built from them have different paths.
* `Ty.generic_paths_are_unique`: so the index of paths leads to each type by its own path.
-/

namespace ObjectPath.Ty

variable {atoms : Set Ty} {a b inner other : Ty}

/-- What the path of an optional type begins with. -/
def optionalOpening : String := "core::option::Option<"

/-- What the path of a vector type begins with. -/
def vectorOpening : String := "alloc::vec::Vec<"

/-- The types that are given or built from these, as optional types and vector types of each
    other. -/
inductive BuiltFrom (atoms : Set Ty) : Ty → Prop
  | atom {ty : Ty} (h : ty ∈ atoms) : BuiltFrom atoms ty
  | optional {inner : Ty} (h : BuiltFrom atoms inner) : BuiltFrom atoms (optional inner)
  | vector {inner : Ty} (h : BuiltFrom atoms inner) : BuiltFrom atoms (vector inner)

/-- The types have different paths, none of which begins like the path of a generic type. -/
structure TellApart (atoms : Set Ty) : Prop where
  differ : ∀ a ∈ atoms, ∀ b ∈ atoms, a.path = b.path → a = b
  notOptional : ∀ a ∈ atoms, ¬ optionalOpening.toList <+: a.path.toList
  notVector : ∀ a ∈ atoms, ¬ vectorOpening.toList <+: a.path.toList

/-! ## Opening texts and closing brackets -/

theorem path_optional (inner : Ty) : (optional inner).path = optionalOpening ++ inner.path ++ ">" :=
  rfl

theorem path_vector (inner : Ty) : (vector inner).path = vectorOpening ++ inner.path ++ ">" := rfl

/-- The outermost opening text and the last bracket are taken off together. -/
theorem peel {opening front back : String} (h : opening ++ front ++ ">" = opening ++ back ++ ">") :
    front = back :=
  (String.append_right_inj opening).1 ((String.append_left_inj ">").1 h)

theorem opening_prefix (opening inside closing : String) :
    opening.toList <+: (opening ++ inside ++ closing).toList := by
  rw [String.toList_append, String.toList_append, List.append_assoc]
  exact List.prefix_append _ _

theorem path_optional_ne_path_vector (inner other : Ty) :
    (optional inner).path ≠ (vector other).path := by
  intro h
  have hopening := opening_prefix optionalOpening inner.path ">"
  rw [← path_optional, h, path_vector, String.toList_append, String.toList_append] at hopening
  -- the first characters differ already
  exact absurd (List.cons_prefix_cons.1 hopening).1 (by decide)

theorem TellApart.ne_optional (h : TellApart atoms) (ha : a ∈ atoms) (inner : Ty) :
    a.path ≠ (optional inner).path := fun heq =>
  h.notOptional a ha (heq ▸ opening_prefix optionalOpening inner.path ">")

theorem TellApart.ne_vector (h : TellApart atoms) (ha : a ∈ atoms) (inner : Ty) :
    a.path ≠ (vector inner).path := fun heq =>
  h.notVector a ha (heq ▸ opening_prefix vectorOpening inner.path ">")

/-! ## Nested types -/

/-- By induction on the nesting of one type: the other one is nested in the same way, since its path
    begins with the same text. -/
theorem TellApart.injOn (h : TellApart atoms) : Set.InjOn path {ty | BuiltFrom atoms ty} := by
  intro a ha b hb heq
  induction ha generalizing b with
  | atom ha =>
    cases hb with
    | atom hb => exact h.differ _ ha _ hb heq
    | optional _ => exact absurd heq (h.ne_optional ha _)
    | vector _ => exact absurd heq (h.ne_vector ha _)
  | optional _ ih =>
    cases hb with
    | atom hb => exact absurd heq.symm (h.ne_optional hb _)
    | optional hb => rw [ih hb (peel heq)]
    | vector _ => exact absurd heq (path_optional_ne_path_vector _ _)
  | vector _ ih =>
    cases hb with
    | atom hb => exact absurd heq.symm (h.ne_vector hb _)
    | optional _ => exact absurd heq.symm (path_optional_ne_path_vector _ _)
    | vector hb => rw [ih hb (peel heq)]

/-- A class that is called like a generic type cannot be told apart from it. -/
example : (object ⟨"core::option::Option<i32>", ""⟩).path = (optional (.int .i32)).path := rfl

/-- Types that are built, in any nesting, from types that can be told apart have different paths. So
    if all registered types are, after any history of operations, then a path leads to the
    registered type that has it. -/
theorem generic_paths_are_unique (h : TellApart atoms) :
    (∀ a b, BuiltFrom atoms a → BuiltFrom atoms b → a.path = b.path → a = b) ∧
    ∀ (G : ClassGraph) (history : List Registration),
      (∀ ty, (Registration.performAll G history).contains ty = true → BuiltFrom atoms ty) →
      ∀ path ty, (Registration.performAll G history).ofPath? path = some ty ↔
        (Registration.performAll G history).contains ty = true ∧ ty.path = path := by
  refine ⟨fun a b ha hb heq => h.injOn ha hb heq, fun G history hbuilt => ?_⟩
  have hpaths : (Registration.performAll G history).PathsDiffer := by
    intro a b ha hb heq
    exact h.injOn (hbuilt a ha) (hbuilt b hb) heq
  exact (Registry.indexed_performAll G history).ofPath?_iff hpaths

end Ty

/-! ## A class with brackets in its path -/

namespace Sample

/-- A class whose path ends in more brackets than it has opened. -/
def bracketed : Ty := .object ⟨"Vec<i32>>", ""⟩

/-- A number and the class. -/
def atoms : List Ty := [.int .i32, bracketed]

/-- The optional types of both are registered. -/
def optionals : List Registration :=
  [.register (.optional (.int .i32)), .register (.optional bracketed)]

theorem tellApart_atoms : Ty.TellApart {ty | ty ∈ atoms} where
  differ := by
    show ∀ a ∈ atoms, ∀ b ∈ atoms, a.path = b.path → a = b
    decide +kernel
  notOptional := by
    show ∀ a ∈ atoms, _
    decide +kernel
  notVector := by
    show ∀ a ∈ atoms, _
    decide +kernel

theorem types_of_optionals :
    (Registration.performAll gallery optionals).types =
      [.optional (.int .i32), .int .i32, .optional bracketed, bracketed] := by
  have hnumber := Registration.registers_with_field gallery .empty (.optional (.int .i32))
    (.int .i32) (by decide +kernel) (by decide +kernel) (by decide +kernel) (by decide +kernel)
  have hclass := Registration.registers_with_field gallery
    ([.optional (.int .i32), .int .i32].foldl Registry.insert .empty) (.optional bracketed)
    bracketed (by decide +kernel) (by decide +kernel) (by decide +kernel) (by decide +kernel)
  rw [(Registry.registers_performAll gallery optionals).unique (hnumber.append hclass)]
  decide +kernel

/-- Vectors of the class and of vectors of numbers have different paths, and the optional type of
    the class is found by its path. -/
theorem bracketed_class_is_not_confused :
    Ty.TellApart {ty | ty ∈ atoms} ∧
    (Ty.vector bracketed).path ≠ (Ty.vector (.vector (.int .i32))).path ∧
    (Registration.performAll gallery optionals).ofPath? "core::option::Option<Vec<i32>>>" =
      some (.optional bracketed) := by
  have hclass : Ty.BuiltFrom {ty | ty ∈ atoms} bracketed :=
    .atom (show bracketed ∈ atoms by decide)
  have hnumber : Ty.BuiltFrom {ty | ty ∈ atoms} (.int .i32) :=
    .atom (show Ty.int .i32 ∈ atoms by decide)
  obtain ⟨hunique, hfinds⟩ := Ty.generic_paths_are_unique tellApart_atoms
  refine ⟨tellApart_atoms, fun heq => ?_, ?_⟩
  · have hsame := hunique _ _ hclass.vector hnumber.vector.vector heq
    exact absurd hsame (by decide)
  · refine (hfinds gallery optionals ?_ _ _).2 ⟨?_, by decide +kernel⟩
    · intro ty hty
      rw [Registry.contains_iff, types_of_optionals] at hty
      simp only [List.mem_cons, List.not_mem_nil, or_false] at hty
      rcases hty with rfl | rfl | rfl | rfl
      · exact hnumber.optional
      · exact hnumber
      · exact hclass.optional
      · exact hclass
    · rw [Registry.contains_iff, types_of_optionals]
      decide +kernel

end Sample

end ObjectPath
