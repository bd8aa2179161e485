import ObjectPath.Value

/-!
# Conversion of values

A value can stand where another type is wanted in two ways: it is wrapped in as many optional
layers as are missing, or it is the null value and becomes the absent value of an optional type.

* `ty_of_convert`: a converted value has the type it was converted to.
* `convert?_self`: a value converts to its own type unchanged.
-/

namespace ObjectPath

/-- Model of `take_from_reflect`, without what it hands back. The value as a value of the given
    type. -/
def Ty.convert? : Ty → Value → Option Value
  | .optional inner, v =>
    if v.ty = .null then some (.absent inner)
    else if v.ty = .optional inner then some v
    else (inner.convert? v).map .present
  | ty, v => if v.ty = ty then some v else none

namespace Ty

theorem ty_of_convert {ty : Ty} {v w : Value} (h : ty.convert? v = some w) : w.ty = ty := by
  induction ty generalizing v w with
  | optional inner ih =>
    simp only [convert?] at h
    split at h
    · cases h; rfl
    · split at h
      · simp_all
      · obtain ⟨u, hu, rfl⟩ := Option.map_eq_some_iff.1 h
        simp [Value.ty, ih hu]
  | _ =>
    simp only [convert?, Option.ite_none_right_eq_some, Option.some.injEq] at h
    exact h.2 ▸ h.1

theorem convert?_self {v : Value} : v.ty.convert? v = some v := by
  cases h : v.ty <;> simp [convert?, h]

end Ty

/-- Model of `set` and `replace` of `Reflect`. The outcome of storing a new value where `old` is:
    the value that takes its place, if the new value converts to the old one's type. -/
def Value.overwrite? (old new : Value) : Option Value := old.ty.convert? new

end ObjectPath
