/-!
# Binary floating-point patterns

A pattern of a binary interchange format is a sign bit, an exponent field and a fraction field,
given as one natural number. `Format` has the widths of the fields; `Format.number` reads the
`Number` that a pattern stands for. Comparison is the one of the standard: a not-a-number equals
nothing, and the two zeros are equal.

* `Format.equal_comm`, `Format.equal_trans`: equality of patterns is symmetric and transitive.
-/

namespace ObjectPath.Decimal

/-- A binary format, by the widths of its exponent and fraction fields. -/
structure Format where
  exponentBits : Nat
  fractionBits : Nat
deriving DecidableEq

/-- Single precision. -/
def Format.single : Format := ⟨8, 23⟩

/-- Double precision. -/
def Format.double : Format := ⟨11, 52⟩

/-- What a pattern stands for. A finite number is `significand · 2 ^ exponent`, and `tight` says
    that the number below it is half as far away as the number above it. -/
inductive Number where
  | nan
  | infinite (negative : Bool)
  | finite (negative : Bool) (significand : Nat) (exponent : Int) (tight : Bool)
deriving DecidableEq

/-- The number a pattern of the format stands for. -/
def Format.number (f : Format) (bits : Nat) : Number :=
  let fraction := bits % Nat.pow 2 f.fractionBits
  let field := bits / Nat.pow 2 f.fractionBits % Nat.pow 2 f.exponentBits
  let negative := bits / Nat.pow 2 (f.fractionBits + f.exponentBits) % 2 = 1
  let bottom : Int := 2 - Int.pow 2 (f.exponentBits - 1) - f.fractionBits
  if field = Nat.pow 2 f.exponentBits - 1 then
    if fraction = 0 then .infinite negative else .nan
  else if field = 0 then .finite negative fraction bottom false
  else .finite negative (Nat.pow 2 f.fractionBits + fraction) (bottom + (field - 1)) (fraction = 0)

/-- The pattern is not a number. -/
def Format.isNaN (f : Format) (bits : Nat) : Bool := f.number bits = .nan

/-- The pattern is one of the two zeros: all bits but the sign are clear. -/
def Format.isZero (f : Format) (bits : Nat) : Bool :=
  bits % Nat.pow 2 (f.fractionBits + f.exponentBits) = 0

/-- Equality of the numbers that two patterns stand for. -/
def Format.equal (f : Format) (a b : Nat) : Bool :=
  !f.isNaN a && !f.isNaN b && (a == b || f.isZero a && f.isZero b)

theorem Format.equal_comm (f : Format) (a b : Nat) : f.equal a b = f.equal b a := by
  simp only [Format.equal, Bool.beq_comm (a := a)]
  cases f.isNaN a <;> cases f.isNaN b <;> cases f.isZero a <;> cases f.isZero b <;> rfl

theorem Format.equal_trans {f : Format} {a b c : Nat} (h : f.equal a b = true)
    (h' : f.equal b c = true) : f.equal a c = true := by
  simp only [Format.equal, Bool.and_eq_true, Bool.or_eq_true, beq_iff_eq] at *
  obtain ⟨⟨ha, -⟩, hab⟩ := h
  obtain ⟨⟨-, hc⟩, hbc⟩ := h'
  refine ⟨⟨ha, hc⟩, ?_⟩
  rcases hab with rfl | ⟨hzero, hmiddle⟩
  · exact hbc
  · rcases hbc with rfl | ⟨-, hlast⟩
    · exact .inr ⟨hzero, hmiddle⟩
    · exact .inr ⟨hzero, hlast⟩

end ObjectPath.Decimal
