import ObjectPath.ClassGraph

/-!
# Registries

A registry holds classes and finds them by full path or by short name. Registering a class also
registers every class it depends on: its base class, the classes of its fields and of its
methods' parameters, and the payload class of an optional type. A class is marked as registered
before the classes it depends on are visited, so that circles end.

A short name that two classes of the registry share is ambiguous and finds none of them. Of two
classes with one full path, the one registered last is found by it.

* `mem_types_insert`: inserting a type adds it and nothing else.
* `length_missing_insert_lt`: there are fewer and fewer types to insert.
-/

namespace ObjectPath

/-- Model of `ClassRegistry`: registered classes with their indices. -/
structure Registry where
  /-- The registered types, in the order of registration. -/
  types : List Ty
  /-- The last registered type of each full path. -/
  byPath : List (String × Ty)
  /-- The only registered type of each short name. -/
  byName : List (String × Ty)
  /-- The short names of several registered types. -/
  ambiguous : List String
deriving DecidableEq

namespace Registry

/-- A registry of no classes. -/
def empty : Registry := ⟨[], [], [], []⟩

/-- The type is registered. -/
def contains (r : Registry) (ty : Ty) : Bool := r.types.contains ty

/-- Model of `add_new_class_indices`: the registry with a type that was not registered before. -/
def insert (r : Registry) (ty : Ty) : Registry :=
  let named : Registry :=
    if r.ambiguous.contains ty.name then r
    else if (r.byName.lookup ty.name).isSome then
      { r with
        byName := r.byName.filter fun entry => entry.1 != ty.name
        ambiguous := ty.name :: r.ambiguous }
    else { r with byName := (ty.name, ty) :: r.byName }
  { named with types := r.types ++ [ty], byPath := (ty.path, ty) :: r.byPath }

theorem mem_types_insert (r : Registry) (ty other : Ty) :
    other ∈ (r.insert ty).types ↔ other ∈ r.types ∨ other = ty := by
  simp [insert]

/-- The types around a type that are not registered. -/
def missing (r : Registry) (G : ClassGraph) (root : Ty) : List Ty :=
  (G.around root).filter fun ty => !r.contains ty

theorem length_missing_insert_lt {r : Registry} {G : ClassGraph} {root ty : Ty}
    (hty : ty ∈ G.around root) (hnew : r.contains ty = false) :
    ((r.insert ty).missing G root).length < (r.missing G root).length := by
  have hfewer : (r.insert ty).missing G root = (r.missing G root).filter (· ≠ ty) := by
    unfold missing
    rw [List.filter_filter]
    refine List.filter_congr fun other _ => ?_
    simp [contains, insert, Bool.and_comm]
  rw [hfewer]
  refine List.length_filter_lt_length_iff_exists.2 ⟨ty, ?_, by simp⟩
  exact List.mem_filter.2 ⟨hty, by simp [hnew]⟩

/-- The loop of `register_info`: registers the types that wait, in order, each of them followed by
    all that it depends on. All of them are around one type, so they run out. -/
def close (G : ClassGraph) (root : Ty) (r : Registry) :
    (waiting : List Ty) → (∀ ty ∈ waiting, ty ∈ G.around root) → Registry
  | [], _ => r
  | ty :: waiting, h =>
    have hty := (List.forall_mem_cons.1 h).1
    have hwaiting := (List.forall_mem_cons.1 h).2
    if _hknown : r.contains ty then close G root r waiting hwaiting
    else
      close G root (r.insert ty) ((G.classOf ty).dependencies ++ waiting)
        (List.forall_mem_append.2 ⟨G.around_closed root ty hty, hwaiting⟩)
termination_by waiting => ((r.missing G root).length, waiting.length)
decreasing_by
  · exact Prod.Lex.right _ (Nat.lt_succ_self _)
  · exact Prod.Lex.left _ _ (length_missing_insert_lt hty (Bool.eq_false_iff.2 _hknown))

/-- Model of `register`: registers a type and all that it depends on. -/
def register (G : ClassGraph) (r : Registry) (ty : Ty) : Registry :=
  close G ty r [ty] (List.forall_mem_singleton.2 (G.self_mem_around ty))

/-- Model of `register_info`: registers a type and all that it depends on, and says whether the type
    was new. -/
def registerIfNew (G : ClassGraph) (r : Registry) (ty : Ty) : Bool × Registry :=
  if r.contains ty then (false, r) else (true, r.register G ty)

/-- The types that are registered from the beginning. -/
def builtins : List Ty :=
  [.unit, .bool, .char, .int .u8, .int .u16, .int .u32, .int .u64, .int .u128, .int .usize,
   .int .i8, .int .i16, .int .i32, .int .i64, .int .i128, .int .isize, .float .f32, .float .f64,
   .string, .null]

/-- Model of `new` of `ClassRegistry`: a registry of the built-in scalar types. -/
def new (G : ClassGraph) : Registry := builtins.foldl (register G) empty

/-- Model of `auto_register`: registers the classes that take part in automatic registration. -/
def autoRegister (G : ClassGraph) (r : Registry) : Registry := G.automatic.foldl (register G) r

/-- The number of registered types. -/
def size (r : Registry) : Nat := r.types.length

/-- Model of `get_with_type_path`: the type of that full path. -/
def ofPath? (r : Registry) (path : String) : Option Ty := r.byPath.lookup path

/-- Model of `get_with_type_name`: the type of that short name, if there is only one. -/
def ofName? (r : Registry) (name : String) : Option Ty := r.byName.lookup name

/-- Model of `resolve`: the type of that full path, or else of that short name. -/
def resolve? (r : Registry) (name : String) : Option Ty := (r.ofPath? name).or (r.ofName? name)

/-- Model of `is_ambiguous`: several registered types have that short name. -/
def isAmbiguous (r : Registry) (name : String) : Bool := r.ambiguous.contains name

/-- The full paths, for inspection. -/
def doc (r : Registry) : Doc :=
  .group .set "" ((r.byPath.map (·.1)).eraseDups.map .quote)

end Registry

end ObjectPath
