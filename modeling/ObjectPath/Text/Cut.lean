/-!
# Cutting texts

Cutting a text at a separator, and the size of a text in bytes of its UTF-8 form.

* `frontParts_append_lastPart`: cutting off the last part and then cutting what is in front of it
  gives all parts.
* `cutLast?_eq_none_iff`: a text cannot be cut at `::` exactly when it has none.
-/

namespace ObjectPath.Text

/-- The number of bytes of the UTF-8 form. -/
def byteCount : List Char → Nat
  | [] => 0
  | c :: rest => c.utf8Size + byteCount rest

theorem byteCount_nil : byteCount [] = 0 := rfl

theorem byteCount_cons (c : Char) (cs : List Char) :
    byteCount (c :: cs) = c.utf8Size + byteCount cs := rfl

theorem byteCount_append (a b : List Char) : byteCount (a ++ b) = byteCount a + byteCount b := by
  induction a with
  | nil => rw [byteCount_nil, List.nil_append, Nat.zero_add]
  | cons c rest ih => rw [List.cons_append, byteCount_cons, ih, byteCount_cons, Nat.add_assoc]

/-- The parts of the text between occurrences of the separator, one more than there are
    occurrences. -/
def parts (separator : Char) (s : String) : List String :=
  (s.toList.splitOn separator).map String.ofList

theorem parts_ne_nil (separator : Char) (s : String) : parts separator s ≠ [] := by
  simp [parts]

/-- The text in front of its last separator, if it has one, and the text behind that. -/
def cutEnd (separator : Char) : List Char → Option (List Char) × List Char
  | [] => (none, [])
  | c :: rest =>
    match cutEnd separator rest with
    | (some front, last) => (some (c :: front), last)
    | (none, last) => if c = separator then (some [], last) else (none, c :: last)

/-- The parts of what stands in front of the last separator. -/
def frontParts (separator : Char) (s : String) : List String :=
  match (cutEnd separator s.toList).1 with
  | some front => (front.splitOn separator).map String.ofList
  | none => []

/-- What stands behind the last separator. -/
def lastPart (separator : Char) (s : String) : String :=
  String.ofList (cutEnd separator s.toList).2

/-- A text is cut at its last separator, or it has none. -/
theorem cutEnd_cases (separator : Char) (cs : List Char) :
    (cutEnd separator cs = (none, cs) ∧ separator ∉ cs) ∨
      ∃ front last, cutEnd separator cs = (some front, last) ∧
        cs = front ++ separator :: last ∧ separator ∉ last := by
  induction cs with
  | nil => exact .inl ⟨rfl, List.not_mem_nil⟩
  | cons c rest ih =>
    rcases ih with ⟨hcut, hnone⟩ | ⟨front, last, hcut, rfl, hlast⟩
    · by_cases hc : c = separator
      · exact .inr ⟨[], rest, by simp [cutEnd, hcut, hc], by simp [hc], hnone⟩
      · refine .inl ⟨by simp [cutEnd, hcut, hc], ?_⟩
        rw [List.mem_cons, not_or]
        exact ⟨fun h => hc h.symm, hnone⟩
    · exact .inr ⟨c :: front, last, by simp [cutEnd, hcut], rfl, hlast⟩

theorem frontParts_append_lastPart (separator : Char) (s : String) :
    frontParts separator s ++ [lastPart separator s] = parts separator s := by
  unfold frontParts lastPart parts
  rcases cutEnd_cases separator s.toList with ⟨hcut, hnone⟩ | ⟨front, last, hcut, htext, hlast⟩
  · rw [hcut, List.splitOn_eq_singleton hnone]
    rfl
  · rw [hcut, htext, List.splitOn_append_cons_self, List.splitOn_eq_singleton hlast,
      List.map_append]
    rfl

/-- The text has a `::` somewhere. -/
def hasDoubleColon : List Char → Bool
  | [] => false
  | c :: rest => (c == ':' && rest.head? == some ':') || hasDoubleColon rest

/-- The text before and after its last `::`, if it has one. -/
def cutLast? : List Char → Option (List Char × List Char)
  | [] => none
  | c :: rest =>
    match cutLast? rest with
    | some (before, after) => some (c :: before, after)
    | none => if c == ':' && rest.head? == some ':' then some ([], rest.tail) else none

theorem cutLast?_eq_none_iff (cs : List Char) : cutLast? cs = none ↔ hasDoubleColon cs = false := by
  fun_induction cutLast? cs <;> simp_all [hasDoubleColon]

end ObjectPath.Text
