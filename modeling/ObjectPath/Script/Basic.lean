import ObjectPath.Script.Segment
import ObjectPath.Text.Cut

/-!
# Scripts

A script is a chain of segments joined by dots. A text is cut at its dots outside parentheses;
one dot in front of each piece is skipped. Every piece is then read as a segment, and the
segments keep the offset of their piece, in bytes.

`Script.parse` reads a whole text at once; `peel` takes one segment off the front at a time.

* `length_rest_lt`: what is left behind a piece is shorter than the text.
-/

namespace ObjectPath

namespace Script

/-! ## Cutting -/

/-- Model of `split_top_level`: the text up to the first dot outside parentheses, and what follows
    the dot, if there is one. `depth` counts the parentheses that are open. -/
def split : Nat → List Char → List Char × Option (List Char)
  | _, [] => ([], none)
  | depth, c :: rest =>
    if c = '.' ∧ depth = 0 then ([], some rest)
    else
      let inner := if c = '(' then depth + 1 else if c = ')' then depth - 1 else depth
      let tail := split inner rest
      (c :: tail.1, tail.2)

/-- The text without one dot in front. -/
def skipDot : List Char → List Char
  | '.' :: rest => rest
  | text => text

/-- The first piece of a text. -/
def piece (text : List Char) : List Char := (split 0 (skipDot text)).1

/-- What is left behind the first piece and its dot. -/
def rest? (text : List Char) : Option (List Char) := (split 0 (skipDot text)).2

theorem length_skipDot_le (text : List Char) : (skipDot text).length ≤ text.length := by
  unfold skipDot
  split <;> simp

theorem length_split_lt {depth : Nat} {text rest : List Char}
    (h : (split depth text).2 = some rest) : rest.length < text.length := by
  induction text generalizing depth with
  | nil => simp [split] at h
  | cons c cs ih =>
    simp only [split] at h
    split at h
    · simp_all
    · exact Nat.lt_succ_of_lt (ih h)

theorem length_rest_lt {text rest : List Char} (h : rest? text = some rest) :
    rest.length < text.length :=
  Nat.lt_of_lt_of_le (length_split_lt h) (length_skipDot_le text)

/-! ## One segment at a time -/

/-- Model of `next_segment`: the first segment of a text, and what is left behind it. -/
def next (text : List Char) : Except Reason (Segment × Option (List Char)) :=
  (Segment.parse (piece text)).map fun segment => (segment, rest? text)

/-- The results of taking segments off the front until none is left or one is invalid. -/
def peel (text : List Char) : List (Except Reason (Segment × Option (List Char))) :=
  match next text with
  | .error e => [.error e]
  | .ok (segment, _) =>
    match _h : rest? text with
    | none => [.ok (segment, none)]
    | some rest => .ok (segment, some rest) :: peel rest
termination_by text.length
decreasing_by exact length_rest_lt _h

/-! ## Whole scripts -/

/-- A piece of a text with its offset in bytes. -/
structure Piece where
  offset : Nat
  text : List Char
deriving DecidableEq

/-- The pieces of a text that starts at the given offset. -/
def pieces (offset : Nat) (text : List Char) : List Piece :=
  let start := offset + Text.byteCount text - Text.byteCount (skipDot text)
  ⟨start, piece text⟩ ::
    match _h : rest? text with
    | none => []
    | some rest => pieces (start + Text.byteCount (piece text) + 1) rest
termination_by text.length
decreasing_by exact length_rest_lt _h

end Script

/-- Model of `OffsetSegment`: a segment with the offset of its piece. -/
structure PlacedSegment where
  offset : Nat
  segment : Segment
deriving DecidableEq

namespace Script

/-- Reads a piece. An empty segment is reported at the offset of the piece. -/
def Piece.parse (p : Piece) : Except Reason PlacedSegment :=
  match Segment.parse p.text with
  | .ok segment => .ok ⟨p.offset, segment⟩
  | .error (.emptySegment _) => .error (.emptySegment p.offset)
  | .error e => .error e

end Script

/-- Model of `CompiledScript`: a text with the segments it was read into. -/
structure Script where
  source : String
  segments : List PlacedSegment
deriving DecidableEq

namespace Script

/-- Model of `parse` of `CompiledScript`: reads a whole script. -/
def parse (source : String) : Except Reason Script :=
  ((pieces 0 source.toList).mapM Piece.parse).map fun segments => ⟨source, segments⟩

/-- The texts of the segments, joined by dots. -/
def printSegments (segments : List Segment) : List Char :=
  ['.'].intercalate (segments.map Segment.print)

/-- The text of the script in canonical form. -/
def text (s : Script) : String := String.ofList (printSegments (s.segments.map (·.segment)))

end Script

end ObjectPath
