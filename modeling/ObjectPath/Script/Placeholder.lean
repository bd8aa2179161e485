import ObjectPath.Script.Reason
import ObjectPath.Text.Blank

/-!
# Placeholders

A placeholder `%N` in a call refers to the `N`-th argument, counted from one. `N` is a machine
word. Blanks around a placeholder and zeros in front of its number do not count.

* `Placeholder.new?_number`: a placeholder is made from its number.
-/

namespace ObjectPath

/-- The number of machine words. -/
def wordSize : Nat := Nat.pow 2 64

/-- Model of `Placeholder`: a reference to an argument, counted from one. -/
structure Placeholder where
  number : Nat
  number_pos : 0 < number
  number_lt : number < wordSize
deriving DecidableEq

namespace Placeholder

/-- Model of `new` of `Placeholder`: the placeholder of the given number, if there is one. -/
def new? (number : Nat) : Option Placeholder :=
  if h : 0 < number ∧ number < wordSize then some ⟨number, h.1, h.2⟩ else none

theorem new?_number (p : Placeholder) : new? p.number = some p := by
  simp [new?, p.number_pos, p.number_lt]

theorem number_of_new? {n : Nat} {p : Placeholder} (h : new? n = some p) : p.number = n := by
  unfold new? at h
  split at h
  · cases h; rfl
  · simp at h

/-- Model of `index` of `Placeholder`: the position of the argument, counted from zero. -/
def index (p : Placeholder) : Nat := p.number - 1

/-- The number that the digits stand for. -/
def digitsValue (digits : List Char) : Nat :=
  digits.foldl (fun n c => 10 * n + (c.toNat - '0'.toNat)) 0

/-- The placeholder that a text without surrounding blanks stands for. -/
def ofToken? : List Char → Option Placeholder
  | '%' :: digits =>
    if digits ≠ [] ∧ digits.all Char.isDigit then new? (digitsValue digits) else none
  | _ => none

/-- Model of `parse` of `Placeholder`: reads a placeholder; blanks around it do not count. -/
def parse (token : List Char) : Except Reason Placeholder :=
  match ofToken? (Text.trim token) with
  | some p => .ok p
  | none => .error (.malformedPlaceholder (String.ofList token))

/-- The text of the placeholder. -/
def print (p : Placeholder) : List Char := '%' :: Nat.toDigits 10 p.number

end Placeholder

end ObjectPath
