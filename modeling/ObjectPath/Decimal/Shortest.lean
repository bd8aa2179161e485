import ObjectPath.Decimal.Binary

/-!
# Shortest decimals

The decimal with the fewest digits among those that read back as a given binary number. It is
found grid by grid: for 1, 2, 3, … digits, the two neighbours of the number on the grid of that
many digits are tested against the interval of reals that round to it. The first grid with a
hit wins; of two hits the nearer is taken, and the larger when both are equally near. All
arithmetic is exact, on natural numbers over a common denominator.
-/

namespace ObjectPath.Decimal

/-- The number `digits · 10 ^ exponent`; `digits` does not end in a zero unless it is zero. -/
structure Numeral where
  digits : Nat
  exponent : Int
deriving DecidableEq

/-- Moves the zeros at the end of `digits` into the exponent, at most `fuel` of them. -/
def Numeral.strip : Nat → Numeral → Numeral
  | 0, d => d
  | fuel + 1, d =>
    if d.digits ≠ 0 ∧ d.digits % 10 = 0 then strip fuel ⟨d.digits / 10, d.exponent + 1⟩ else d

/-- The digits of the numeral, most significant first. -/
def Numeral.digitChars (d : Numeral) : List Char := Nat.toDigits 10 d.digits

/-- The power of ten of the first digit. -/
def Numeral.leading (d : Numeral) : Int := d.exponent + (d.digitChars.length - 1 : Nat)

/-- The reals that round to a number, scaled: the number is `value / unit`, the interval runs
    from `low / unit` to `high / unit`, and its ends belong to it when `closed`. -/
structure Interval where
  low : Nat
  value : Nat
  high : Nat
  unit : Nat
  closed : Bool

/-- The interval of `significand · 2 ^ exponent`: half of the gap to either neighbour, with the
    gap below halved when `tight`. Ties round to even, so the ends belong to an even
    significand. -/
def Interval.of (significand : Nat) (exponent : Int) (tight : Bool) : Interval :=
  let scale := Nat.pow 2 exponent.toNat
  { low := (4 * significand - if tight then 1 else 2) * scale
    value := 4 * significand * scale
    high := (4 * significand + 2) * scale
    unit := 4 * Nat.pow 2 (-exponent).toNat
    closed := significand % 2 = 0 }

/-- The interval measured in units of `10 ^ k`. -/
def Interval.inUnits (i : Interval) (k : Int) : Interval :=
  let up := Nat.pow 10 (-k).toNat
  { i with low := i.low * up, value := i.value * up, high := i.high * up,
           unit := i.unit * Nat.pow 10 k.toNat }

/-- The whole number `n` lies in the interval. -/
def Interval.has (i : Interval) (n : Nat) : Bool :=
  if i.closed then i.low ≤ n * i.unit && n * i.unit ≤ i.high
  else i.low < n * i.unit && n * i.unit < i.high

/-- The whole number next to the value that lies in the interval, the nearer one if both do,
    the larger one on a tie. -/
def Interval.nearest? (i : Interval) : Option Nat :=
  let below := i.value / i.unit
  let above := below + 1
  if i.has above && (!i.has below || i.unit ≤ 2 * (i.value % i.unit)) then some above
  else if i.has below then some below
  else none

/-- The power of ten of the value's first digit, for a value below `10 ^ fuel` and not below
    `10 ^ (-fuel)`. -/
def Interval.magnitude (i : Interval) (fuel : Nat) : Int :=
  if i.unit ≤ i.value then (Nat.toDigits 10 (i.value / i.unit)).length - 1
  else -((List.range fuel).find? fun j => i.unit ≤ i.value * Nat.pow 10 j).getD fuel

/-- The first hit on the grids of `count`, `count + 1`, … digits, `fuel` of them. -/
def shortestFrom (i : Interval) (top : Int) : Nat → Nat → Numeral
  | _, 0 => ⟨i.value / i.unit, 0⟩
  | count, fuel + 1 =>
    let k := top - (count - 1 : Nat)
    match (i.inUnits k).nearest? with
    | some n => ⟨n, k⟩
    | none => shortestFrom i top (count + 1) fuel

/-- The shortest decimal that reads back as `significand · 2 ^ exponent`, which is not zero. -/
def shortest (significand : Nat) (exponent : Int) (tight : Bool) : Numeral :=
  let i := Interval.of significand exponent tight
  (shortestFrom i (i.magnitude 400) 1 17).strip 20

end ObjectPath.Decimal
