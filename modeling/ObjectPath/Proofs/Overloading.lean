import ObjectPath.Gallery
import ObjectPath.Proofs.Lookup
import Mathlib.Data.List.Sort

/-!
# Overloaded methods

A class finds a method by name and argument types, and of the methods that accept the types it takes
the one declared first. A parameter accepts more than its own type, so a method that is declared
early can capture the calls meant for a later one, which has the very types of the arguments.

Which methods are reached by their own parameter types is thus a matter of the order of declaration.
No order is needed if no method accepts the parameter types of another one. Otherwise some order
reaches all methods, because what a method accepts is never larger than its own parameter types.

Results:
* `Class.method?_of_split`: what a class finds for the parameter types of one of its methods.
* `Method.Captures.size_lt`: a method captures only methods with smaller parameter types.
* `Class.exists_order`: the methods can be declared in an order in which all of them are reached.
* `Class.reached_iff_not_captured`: which methods are reached, and in which orders all are.
-/

namespace ObjectPath

/-! ## What is accepted is not larger -/

theorem Ty.accepts_self (ty : Ty) : ty.accepts ty = true := by
  simp [accepts]

/-- Of the types that a parameter accepts, its own is built from the most types. -/
theorem Ty.eq_or_length_parts_lt {param arg : Ty} (h : param.accepts arg = true) :
    param = arg ∨ arg.parts.length < param.parts.length := by
  rw [accepts, Bool.or_eq_true, beq_iff_eq] at h
  rcases h with rfl | h
  · exact .inl rfl
  · right
    cases param with
    | optional inner =>
      simp only [inner?, Bool.or_eq_true, beq_iff_eq] at h
      have hinner : 0 < inner.parts.length := by
        cases inner <;> simp [parts]
      show arg.parts.length < inner.parts.length + 1
      rcases h with rfl | rfl
      · show 1 < inner.parts.length + 1
        omega
      · omega
    | _ => simp [inner?] at h

namespace Method

/-- The number of types that the parameter types are built from. -/
def size (m : Method) : Nat := (m.params.flatMap Ty.parts).length

theorem accepts_iff_forall₂ {m : Method} {types : List Ty} :
    m.accepts types = true ↔
      List.Forall₂ (fun param arg => param.accepts arg = true) m.params types := by
  rw [List.forall₂_iff_zip, accepts, Bool.and_eq_true, beq_iff_eq, List.all_eq_true]
  simp

theorem accepts_params (m : Method) : m.accepts m.params = true := by
  rw [accepts_iff_forall₂, List.forall₂_same]
  exact fun ty _ => ty.accepts_self

theorem eq_or_length_parts_lt {params types : List Ty}
    (h : List.Forall₂ (fun param arg => Ty.accepts param arg = true) params types) :
    params = types ∨ (types.flatMap Ty.parts).length < (params.flatMap Ty.parts).length := by
  induction h with
  | nil => exact .inl rfl
  | @cons param arg params types hfirst _ ih =>
    simp only [List.flatMap_cons, List.length_append]
    rcases Ty.eq_or_length_parts_lt hfirst with rfl | hfirst
    · rcases ih with rfl | ih
      · exact .inl rfl
      · right
        omega
    · right
      rcases ih with rfl | ih <;> omega

/-- The method is found in place of the other one wherever it is declared in front of it: it has
    the same name, and accepts the other's parameter types. -/
def Captures (m other : Method) : Prop := m.name = other.name ∧ m.accepts other.params = true

instance (m other : Method) : Decidable (m.Captures other) := inferInstanceAs (Decidable (_ ∧ _))

theorem captures_self (m : Method) : m.Captures m := ⟨rfl, m.accepts_params⟩

/-- Only a method with larger parameter types captures one with other parameter types. -/
theorem Captures.size_lt {m other : Method} (h : m.Captures other)
    (hparams : m.params ≠ other.params) : other.size < m.size :=
  (eq_or_length_parts_lt (accepts_iff_forall₂.1 h.2)).resolve_left hparams

/-- The order of declaration that puts smaller parameter types in front. -/
def smallerFirst (m other : Method) : Bool := decide (m.size ≤ other.size)

theorem smallerFirst_iff {m other : Method} :
    m.smallerFirst other = true ↔ m.size ≤ other.size := decide_eq_true_iff

theorem smallerFirst_trans (m other last : Method) (h : m.smallerFirst other = true)
    (h' : other.smallerFirst last = true) : m.smallerFirst last = true :=
  smallerFirst_iff.2 (Nat.le_trans (smallerFirst_iff.1 h) (smallerFirst_iff.1 h'))

theorem smallerFirst_total (m other : Method) :
    (m.smallerFirst other || other.smallerFirst m) = true := by
  rw [Bool.or_eq_true, smallerFirst_iff, smallerFirst_iff]
  exact Nat.le_total m.size other.size

end Method

namespace Class

/-! ## Overloads of a class -/

/-- Of two declared methods with one name, the parameter types differ. -/
def OverloadsDiffer (c : Class) : Prop :=
  c.methods.Pairwise fun m other => m.name = other.name → m.params ≠ other.params

instance (c : Class) : Decidable c.OverloadsDiffer := by
  unfold OverloadsDiffer; infer_instance

/-- The class finds the method by the method's name and parameter types. -/
def Reaches (c : Class) (m : Method) : Prop := c.method? m.name m.params = some m

/-- The class with other methods, or with its methods in another order. -/
def withMethods (c : Class) (methods : List Method) : Class := { c with methods }

variable {c : Class} {m : Method}

theorem method?_params_eq (c : Class) (m : Method) :
    c.method? m.name m.params = c.methods.find? fun other => decide (other.Captures m) := by
  rw [method?, methodsNamed, List.find?_filter]
  refine congrArg (List.find? · c.methods) (funext fun other => ?_)
  exact decide_eq_decide.2 (and_congr_left fun _ => beq_iff_eq)

/-- For the parameter types of one of its methods, a class finds the first method that captures it,
    which is the method itself if none is declared in front of it. -/
theorem method?_of_split {before after : List Method} (hsplit : c.methods = before ++ m :: after) :
    c.method? m.name m.params =
      (before.find? fun other => decide (other.Captures m)).or (some m) := by
  rw [method?_params_eq, hsplit, List.find?_append, List.find?_cons_of_pos]
  exact decide_eq_true m.captures_self

theorem exists_captures_of_split {before after : List Method}
    (hsplit : c.methods = before ++ m :: after) :
    ∃ found ∈ before ++ [m], found.Captures m ∧ c.method? m.name m.params = some found := by
  rw [method?_of_split hsplit]
  cases hfind : before.find? fun other => decide (other.Captures m) with
  | none => exact ⟨m, by simp, m.captures_self, rfl⟩
  | some found =>
    refine ⟨found, List.mem_append_left _ (List.mem_of_find?_eq_some hfind), ?_, rfl⟩
    have hcaptures := List.find?_some hfind
    exact of_decide_eq_true hcaptures

theorem OverloadsDiffer.ne_of_split (h : c.OverloadsDiffer) {before after : List Method}
    (hsplit : c.methods = before ++ m :: after) {other : Method} (hother : other ∈ before)
    (hname : other.name = m.name) : other.params ≠ m.params := by
  rw [OverloadsDiffer, hsplit, List.pairwise_append] at h
  obtain ⟨-, -, hacross⟩ := h
  exact hacross other hother m List.mem_cons_self hname

/-- A method is reached unless one in front of it captures it. -/
theorem reaches_iff_of_split (h : c.OverloadsDiffer) {before after : List Method}
    (hsplit : c.methods = before ++ m :: after) :
    c.Reaches m ↔ ∀ other ∈ before, ¬ other.Captures m := by
  rw [Reaches, method?_of_split hsplit, Option.or_eq_some_iff, List.find?_eq_none]
  simp only [decide_eq_true_eq, and_true]
  refine or_iff_right fun hfind => ?_
  exact h.ne_of_split hsplit (List.mem_of_find?_eq_some hfind) rfl rfl

/-! ## Orders of declaration -/

theorem OverloadsDiffer.of_perm (h : c.OverloadsDiffer) {order : List Method}
    (hperm : order.Perm c.methods) : (c.withMethods order).OverloadsDiffer :=
  (hperm.pairwise_iff fun hxy hname => (hxy hname.symm).symm).2 h

/-- If no method captures another, the order of declaration does not matter. -/
theorem reaches_of_apart (h : c.OverloadsDiffer)
    (hapart : c.methods.Pairwise fun m other => ¬ m.Captures other ∧ ¬ other.Captures m)
    {order : List Method} (hperm : order.Perm c.methods) (hm : m ∈ order) :
    (c.withMethods order).Reaches m := by
  obtain ⟨before, after, hsplit⟩ := List.append_of_mem hm
  rw [reaches_iff_of_split (h.of_perm hperm) hsplit]
  intro other hother
  have horder := (hperm.pairwise_iff fun hxy => And.symm hxy).2 hapart
  rw [hsplit, List.pairwise_append] at horder
  obtain ⟨-, -, hacross⟩ := horder
  exact (hacross other hother m List.mem_cons_self).1

/-- A method that captures another one does so if both are moved to the front. -/
theorem apart_of_reaches (h : c.OverloadsDiffer)
    (hall : ∀ order : List Method, order.Perm c.methods →
      ∀ m ∈ order, (c.withMethods order).Reaches m) :
    c.methods.Pairwise fun m other => ¬ m.Captures other ∧ ¬ other.Captures m := by
  have hfront {m other : Method} {rest : List Method}
      (hperm : (m :: other :: rest).Perm c.methods) : ¬ m.Captures other := by
    have hreached := hall _ hperm other (List.mem_cons_of_mem _ List.mem_cons_self)
    have hsplit : (c.withMethods (m :: other :: rest)).methods = [m] ++ other :: rest := rfl
    exact (reaches_iff_of_split (h.of_perm hperm) hsplit).1 hreached m (List.mem_singleton_self m)
  rw [List.pairwise_iff_forall_sublist]
  intro m other hsub
  obtain ⟨rest, hperm⟩ := hsub.exists_perm_append
  have hswap : (other :: m :: rest).Perm c.methods := (List.Perm.swap m other rest).trans hperm.symm
  exact ⟨hfront hperm.symm, hfront hswap⟩

/-- With the methods of smaller parameter types in front, all methods are reached. -/
theorem exists_order (h : c.OverloadsDiffer) :
    ∃ order : List Method, order.Perm c.methods ∧
      ∀ m ∈ order, (c.withMethods order).Reaches m := by
  have hperm : (c.methods.mergeSort Method.smallerFirst).Perm c.methods := List.mergeSort_perm _ _
  have hsorted : (c.methods.mergeSort Method.smallerFirst).Pairwise fun m other =>
      m.smallerFirst other = true :=
    List.pairwise_mergeSort Method.smallerFirst_trans Method.smallerFirst_total c.methods
  refine ⟨_, hperm, fun m hm => ?_⟩
  obtain ⟨before, after, hsplit⟩ := List.append_of_mem hm
  rw [reaches_iff_of_split (h.of_perm hperm) hsplit]
  intro other hother hcaptures
  rw [hsplit, List.pairwise_append] at hsorted
  obtain ⟨-, -, hacross⟩ := hsorted
  have hle : other.size ≤ m.size :=
    Method.smallerFirst_iff.1 (hacross other hother m List.mem_cons_self)
  have hparams := (h.of_perm hperm).ne_of_split hsplit hother hcaptures.1
  have hlt := hcaptures.size_lt hparams
  omega

/-- Overloads are told apart as far as their order allows. For the name and the parameter types of a
    declared method, a class always finds a method of that name that accepts the types, declared at
    the same place or in front; it finds the method itself exactly if no method in front captures
    it. All methods are reached whatever the order of declaration exactly if none captures another;
    and in any case there is an order in which all are reached. -/
theorem reached_iff_not_captured (h : c.OverloadsDiffer) :
    (∀ before m after, c.methods = before ++ m :: after →
      (∃ found ∈ before ++ [m], found.Captures m ∧ c.method? m.name m.params = some found) ∧
        (c.method? m.name m.params = some m ↔ ∀ other ∈ before, ¬ other.Captures m)) ∧
    ((∀ order : List Method, order.Perm c.methods → ∀ m ∈ order,
        (c.withMethods order).method? m.name m.params = some m) ↔
      c.methods.Pairwise fun m other => ¬ m.Captures other ∧ ¬ other.Captures m) ∧
    ∃ order : List Method, order.Perm c.methods ∧
      ∀ m ∈ order, (c.withMethods order).method? m.name m.params = some m := by
  refine ⟨fun before m after hsplit => ?place, ⟨apart_of_reaches h, ?anyOrder⟩, exists_order h⟩
  case place => exact ⟨exists_captures_of_split hsplit, reaches_iff_of_split h hsplit⟩
  case anyOrder => exact fun hapart order hperm m hm => reaches_of_apart h hapart hperm hm

/-- The outermost class has three methods of one name. The one for optional numbers is declared
    first and captures the one for numbers, but not the last one. -/
theorem last_overload_is_reached :
    (gallery.classOf Gallery.overTop.objects).OverloadsDiffer ∧
      ∃ optional plain last after,
        (gallery.classOf Gallery.overTop.objects).methods = [optional, plain] ++ last :: after ∧
        optional.Captures plain ∧
        (gallery.classOf Gallery.overTop.objects).method? last.name last.params = some last := by
  have hdiffer : (gallery.classOf Gallery.overTop.objects).OverloadsDiffer := by decide +kernel
  obtain ⟨hplace, -, -⟩ := reached_iff_not_captured hdiffer
  have hsplit : (gallery.classOf Gallery.overTop.objects).methods =
      [Gallery.overTop.methods[0], Gallery.overTop.methods[1]] ++
        Gallery.overTop.methods[2] :: Gallery.overTop.methods.drop 3 := rfl
  refine ⟨hdiffer, _, _, _, _, hsplit, by decide +kernel, ?_⟩
  exact (hplace _ _ _ hsplit).2.2 (by decide +kernel)

/-- The method for numbers is declared behind the one for optional numbers, and it is the latter
    that the class finds for a number. -/
theorem number_is_taken_as_optional :
    (gallery.classOf Gallery.overTop.objects).OverloadsDiffer ∧
      ¬ ∀ m ∈ (gallery.classOf Gallery.overTop.objects).methods,
        (gallery.classOf Gallery.overTop.objects).method? m.name m.params = some m := by
  refine ⟨by decide +kernel, fun h => ?_⟩
  have hplain := h Gallery.overTop.methods[1] (List.getElem_mem (l := Gallery.overTop.methods) _)
  have hfound : ((gallery.classOf Gallery.overTop.objects).method? "f" [.int .i32]).map
      Method.params = some [.optional (.int .i32)] := by decide +kernel
  have hname : Gallery.overTop.methods[1].name = "f" := rfl
  have hparams : Gallery.overTop.methods[1].params = [.int .i32] := rfl
  rw [hname, hparams] at hplain
  rw [hplain, Option.map_some, hparams] at hfound
  cases hfound

end Class

end ObjectPath
