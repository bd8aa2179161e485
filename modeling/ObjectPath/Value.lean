import ObjectPath.Ty

/-!
# Values

The values that scripts read, pass and return. A value carries its own type (`Value.ty`): a
missing optional value and an empty vector name the type they would hold, and an object names
its class. The slots of an object are its native fields in the order of their declaration, the
embedded base object and the fields hidden from scripts among them.
-/

namespace ObjectPath

/-- A value of some `Reflect` type. Floating-point numbers are kept as bit patterns. -/
inductive Value where
  | unit
  | null
  | bool (b : Bool)
  | char (c : Char)
  | int (kind : IntKind) (n : Int)
  | float (kind : FloatKind) (bits : Nat)
  | string (s : String)
  | absent (inner : Ty)
  | present (payload : Value)
  | vector (element : Ty) (items : List Value)
  | object (id : ClassId) (slots : List Value)

namespace Value

/-- Model of `ty_id`: the type of the value. -/
def ty : Value → Ty
  | unit => .unit
  | null => .null
  | bool _ => .bool
  | char _ => .char
  | int kind _ => .int kind
  | float kind _ => .float kind
  | string _ => .string
  | absent inner => .optional inner
  | present payload => .optional payload.ty
  | vector element _ => .vector element
  | object id _ => .object id

/-- The machine word `n`. -/
def size (n : Nat) : Value := .int .usize n

/-- The value in an optional of the given inner type. -/
def ofOption (inner : Ty) : Option Value → Value
  | some v => .present v
  | none => .absent inner

/-! ## Decidable equality -/

mutual

/-- The two values are built alike. -/
def same : Value → Value → Bool
  | unit, unit => true
  | null, null => true
  | bool x, bool y => x == y
  | char x, char y => x == y
  | int j m, int k n => j == k && m == n
  | float j m, float k n => j == k && m == n
  | string s, string t => s == t
  | absent t, absent u => t == u
  | present v, present w => same v w
  | vector t xs, vector u ys => t == u && sameAll xs ys
  | object i xs, object j ys => i == j && sameAll xs ys
  | _, _ => false

/-- The two lists of values are built alike. -/
def sameAll : List Value → List Value → Bool
  | [], [] => true
  | x :: xs, y :: ys => same x y && sameAll xs ys
  | _, _ => false

end

mutual

theorem same_self : (v : Value) → same v v = true
  | unit | null | bool _ | char _ | int _ _ | float _ _ | string _ | absent _ => by simp [same]
  | present v => by simp [same, same_self v]
  | vector _ xs | object _ xs => by simp [same, sameAll_self xs]

theorem sameAll_self : (xs : List Value) → sameAll xs xs = true
  | [] => by simp [sameAll]
  | x :: xs => by simp [sameAll, same_self x, sameAll_self xs]

end

mutual

theorem eq_of_same : (v w : Value) → same v w = true → v = w
  | unit, w, h | null, w, h | bool _, w, h | char _, w, h | int _ _, w, h | float _ _, w, h
  | string _, w, h | absent _, w, h => by cases w <;> simp_all [same]
  | present v, w, h => by
    cases w <;> simp only [same, Bool.false_eq_true] at h
    rw [eq_of_same v _ h]
  | vector _ xs, w, h | object _ xs, w, h => by
    cases w <;> simp only [same, Bool.false_eq_true, Bool.and_eq_true, beq_iff_eq] at h
    rw [h.1, eq_of_sameAll xs _ h.2]

theorem eq_of_sameAll : (xs ys : List Value) → sameAll xs ys = true → xs = ys
  | [], ys, h => by cases ys <;> simp_all [sameAll]
  | x :: xs, ys, h => by
    cases ys <;> simp only [sameAll, Bool.false_eq_true, Bool.and_eq_true] at h
    rw [eq_of_same x _ h.1, eq_of_sameAll xs _ h.2]

end

theorem same_iff (v w : Value) : same v w = true ↔ v = w :=
  ⟨eq_of_same v w, fun h => h ▸ same_self v⟩

instance : DecidableEq Value := fun v w => decidable_of_iff _ (same_iff v w)

end Value

end ObjectPath
