import ObjectPath.Decimal.Shortest

/-!
# Written numbers

How a floating-point number is written. `Style` fixes the free choices; `display` and `debug`
are the two notations in use.
-/

namespace ObjectPath.Decimal

/-- The choices in writing a number: how many decimal places are written at least, and for
    which powers of ten of the first digit the point is placed among the digits (for all when
    `none`); elsewhere the number is written with an exponent. -/
structure Style where
  places : Nat
  positional : Option (Int × Int)

/-- Numbers for reading: always positional, with no more places than needed. -/
def Style.display : Style := ⟨0, none⟩

/-- Numbers for inspection: at least one place, and an exponent below `10 ^ (-4)` and from
    `10 ^ 16` on. -/
def Style.debug : Style := ⟨1, some (-4, 15)⟩

/-- So many zeros. -/
def zeros (n : Nat) : List Char := List.replicate n '0'

/-- The digits with the point placed among them, with at least `places` decimal places. -/
def writePositional (places : Nat) (d : Numeral) : List Char :=
  let whole := if d.exponent < 0 then
      d.digitChars.take (d.digitChars.length - (-d.exponent).toNat)
    else d.digitChars ++ zeros d.exponent.toNat
  let fraction := if d.exponent < 0 then
      zeros ((-d.exponent).toNat - d.digitChars.length) ++
        d.digitChars.drop (d.digitChars.length - (-d.exponent).toNat)
    else []
  let padded := fraction ++ zeros (places - fraction.length)
  (if whole = [] then ['0'] else whole) ++ (if padded = [] then [] else '.' :: padded)

/-- The digits with the point behind the first one, and the power of ten behind an `e`. -/
def writeScientific (d : Numeral) : List Char :=
  match d.digitChars with
  | [] => []
  | first :: rest =>
    first :: (if rest = [] then [] else '.' :: rest) ++ 'e' :: (toString d.leading).toList

/-- The number in the given style, without its sign. -/
def Style.writeNumeral (style : Style) (d : Numeral) : List Char :=
  match style.positional with
  | none => writePositional style.places d
  | some (least, greatest) =>
    if d.digits = 0 ∨ least ≤ d.leading ∧ d.leading ≤ greatest then
      writePositional style.places d
    else writeScientific d

/-- The text of a number. -/
def Style.write (style : Style) : Number → String
  | .nan => "NaN"
  | .infinite negative => if negative then "-inf" else "inf"
  | .finite negative significand exponent tight =>
    let d : Numeral := if significand = 0 then ⟨0, 0⟩ else shortest significand exponent tight
    String.ofList ((if negative then ['-'] else []) ++ style.writeNumeral d)

end ObjectPath.Decimal
