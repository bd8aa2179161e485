import ObjectPath.Builtin

/-!
# Class graphs

A class depends on other classes: on its base class, on the classes of its declared fields and of
its methods' parameters, and, if it is optional, on the class of its payload. Classes may depend
on each other in circles, but every class leads to finitely many others.

* `Schema.mem_parts_or_mentioned`: what a class of a schema depends on is a part of its type or is
  mentioned by a declared class.
* `Schema.graph`: so the classes of a schema are a class graph.
-/

namespace ObjectPath

/-- The types that a class depends on, which `register_info` goes on to. -/
def Class.dependencies (c : Class) : List Ty :=
  c.base.toList.map (·.ty) ++ c.fields.map (·.ty) ++ c.methods.flatMap (·.params) ++
    c.ty.inner?.toList

/-- Classes that depend on each other. -/
structure ClassGraph where
  classOf : Ty → Class
  ty_classOf : ∀ ty, (classOf ty).ty = ty
  /-- The types whose classes take part in automatic registration. -/
  automatic : List Ty
  /-- Finitely many types, among them the type itself and all that it leads to. -/
  around : Ty → List Ty
  self_mem_around : ∀ ty, ty ∈ around ty
  around_closed : ∀ root, ∀ ty ∈ around root, ∀ other ∈ (classOf ty).dependencies,
    other ∈ around root

theorem Ty.self_mem_parts (ty : Ty) : ty ∈ ty.parts := by
  cases ty <;> simp [parts]

theorem Ty.parts_subset {ty other : Ty} (h : other ∈ ty.parts) : other.parts ⊆ ty.parts := by
  induction ty with
  | optional inner ih | vector inner ih =>
    rw [parts, List.mem_cons] at h
    rcases h with rfl | h
    · exact List.Subset.refl _
    · exact List.subset_cons_of_subset _ (ih h)
  | _ =>
    rw [List.mem_singleton.1 h]
    exact List.Subset.refl _

namespace Schema

/-- The types that declared classes mention, and those that built-in classes depend on. -/
def mentioned (S : Schema) : List Ty :=
  let declared := S.classes.flatMap fun c =>
    .object c.id :: ((S.classOf (.object c.id)).dependencies)
  (.string :: .int .usize :: declared).flatMap Ty.parts

theorem mem_mentioned_of_declared {S : Schema} {c : ClassDecl} (hc : c ∈ S.classes) {ty : Ty}
    (h : ty ∈ (S.classOf (.object c.id)).dependencies) : ty ∈ S.mentioned := by
  unfold mentioned
  refine List.mem_flatMap.2 ⟨ty, ?_, ty.self_mem_parts⟩
  have hdeclared : ty ∈ S.classes.flatMap fun c =>
      .object c.id :: ((S.classOf (.object c.id)).dependencies) :=
    List.mem_flatMap.2 ⟨c, hc, List.mem_cons_of_mem _ h⟩
  exact List.mem_cons_of_mem _ (List.mem_cons_of_mem _ hdeclared)

/-- A class depends on parts of its type, or on types that declared classes mention. -/
theorem mem_parts_or_mentioned {S : Schema} {ty other : Ty}
    (h : other ∈ (S.classOf ty).dependencies) : other ∈ ty.parts ∨ other ∈ S.mentioned := by
  cases ty with
  | object id =>
    rcases S.decl_mem_or id with hdecl | hnone
    · exact .inr (mem_mentioned_of_declared hdecl (by rwa [S.decl_id]))
    · simp [Class.dependencies, classOf, hnone, ClassDecl.of, ClassDecl.baseSlot?,
        ClassDecl.declaredSlots, ClassDecl.slotsOf, Ty.inner?] at h
  | optional inner =>
    have hinner : other = inner := by simpa [Class.dependencies, classOf, Ty.inner?] using h
    rw [hinner, Ty.parts]
    exact .inl (List.mem_cons_of_mem _ inner.self_mem_parts)
  | vector element =>
    have hcases : other = .int .usize ∨ other = element := by
      simpa [Class.dependencies, classOf, builtinMethods, vectorMethods, Method.of, Ty.inner?]
        using h
    rcases hcases with rfl | rfl
    · exact .inr (List.mem_flatMap.2 ⟨.int .usize, by simp, Ty.self_mem_parts _⟩)
    · rw [Ty.parts]
      exact .inl (List.mem_cons_of_mem _ other.self_mem_parts)
  | string =>
    have hstring : other = .string := by
      simpa [Class.dependencies, classOf, builtinMethods, stringMethods, Method.toText, Method.of,
        Ty.inner?] using h
    rw [hstring]
    exact .inl (Ty.self_mem_parts _)
  | _ =>
    simp [Class.dependencies, classOf, builtinMethods, Method.toText, Method.of, Ty.inner?] at h

/-- The classes of a schema. -/
def graph (S : Schema) : ClassGraph where
  classOf := S.classOf
  ty_classOf := S.ty_classOf
  automatic := (S.classes.filter (·.autoRegister)).map fun c => .object c.id
  around ty := ty.parts ++ S.mentioned
  self_mem_around ty := List.mem_append_left _ ty.self_mem_parts
  around_closed root ty hty other h := by
    rw [List.mem_append] at hty ⊢
    rcases mem_parts_or_mentioned h with hpart | hmentioned
    · rcases hty with hty | hty
      · exact .inl (Ty.parts_subset hty hpart)
      · obtain ⟨source, hsource, hty⟩ := List.mem_flatMap.1 hty
        exact .inr (List.mem_flatMap.2 ⟨source, hsource, Ty.parts_subset hty hpart⟩)
    · exact .inr hmentioned

instance : Coe Schema ClassGraph := ⟨graph⟩

end Schema

end ObjectPath
