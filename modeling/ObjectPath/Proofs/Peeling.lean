import ObjectPath.Proofs.Tiling

/-!
# Peeling a script

A script is read as a whole, which places its segments, or it is peeled: its first segment is taken
off, then the first segment of what is left behind it, and so on, and nobody counts bytes. Both ways
skip a dot and cut at the next one outside parentheses. So they come to the same pieces in the same
order, and both stop at the first piece that is not a segment; only the offset of an empty segment
is lost when a script is peeled.

A segment is empty if there is nothing between two dots, or nothing in front of the parentheses of a
call. So its offset is where the text ends, or has a dot or an opening parenthesis.

Results:
* `Script.peel_eq`: peeling takes off the next segment, again and again.
* `Script.map_peel`: peeling reads the pieces of the script up to the first invalid one.
* `Script.pieces_stand`: behind every piece stands a dot, or the text ends.
* `Script.peeling_agrees_with_parsing`: the two ways of reading any text.
-/

namespace ObjectPath

/-- The reason without the place that it names. -/
def Reason.unplaced : Reason → Reason
  | .emptySegment _ => .emptySegment 0
  | reason => reason

/-! ## Why a text is no segment -/

theorem Placeholder.error_of_parse {token : List Char} {reason : Reason}
    (h : parse token = .error reason) :
    reason = .malformedPlaceholder (String.ofList token) := by
  unfold parse at h
  split at h
  · cases h
  · exact (Except.error.inj h).symm

namespace Segment

variable {text : List Char} {reason : Reason}

theorem error_of_parseParams {body : List Char} (h : parseParams body = .error reason) :
    ∃ token, reason = .malformedPlaceholder token := by
  unfold parseParams at h
  split at h
  · cases h
  · obtain ⟨_, token, _, _, -, -, htoken⟩ := Except.mapM_eq_error_iff.1 h
    exact ⟨_, Placeholder.error_of_parse htoken⟩

/-- A text that begins with its first opening parenthesis has nothing in front of it. -/
theorem head_of_callName_eq_nil (hcall : looksLikeCall text = true) (h : callName text = []) :
    ∃ rest, text = '(' :: rest := by
  cases text with
  | nil => cases hcall
  | cons c rest =>
    have hc : c = '(' := by
      by_contra hne
      simp [callName, hne] at h
    exact ⟨rest, by rw [hc]⟩

/-- A segment is empty where a text ends, or begins with an opening parenthesis. -/
theorem error_cases (h : parse text = .error reason) :
    (reason = .emptySegment 0 ∧ (text = [] ∨ ∃ rest, text = '(' :: rest)) ∨
      ∀ offset, reason ≠ .emptySegment offset := by
  unfold parse at h
  split at h
  · next hempty => exact .inl ⟨(Except.error.inj h).symm, .inl hempty⟩
  · split at h
    · next hcall =>
      split at h
      · next hname =>
        exact .inl ⟨(Except.error.inj h).symm, .inr (head_of_callName_eq_nil hcall hname)⟩
      · obtain ⟨token, rfl⟩ := error_of_parseParams (Except.map_eq_error_iff.1 h)
        exact .inr nofun
    · split at h
      · obtain rfl := Except.error.inj h
        exact .inr nofun
      · cases h

end Segment

namespace Script

open Text

variable {offset : Nat} {text : List Char} {reason : Reason}

/-! ## Reading piece by piece -/

/-- Apart from its place, a piece is read as its text. -/
theorem Piece.parse_unplaced (p : Piece) :
    (p.parse.map (·.segment)).mapError Reason.unplaced = Segment.parse p.text := by
  unfold Piece.parse
  cases hread : Segment.parse p.text with
  | ok segment => rfl
  | error e =>
    obtain ⟨rfl, -⟩ | hplaced := Segment.error_cases hread
    · rfl
    · cases e with
      | emptySegment start => exact absurd rfl (hplaced start)
      | _ => rfl

theorem Piece.of_parse_eq_emptySegment {p : Piece} (h : p.parse = .error (.emptySegment offset)) :
    p.offset = offset ∧ (p.text = [] ∨ ∃ rest, p.text = '(' :: rest) := by
  unfold Piece.parse at h
  cases hread : Segment.parse p.text with
  | ok segment =>
    rw [hread] at h
    cases h
  | error e =>
    obtain ⟨rfl, htext⟩ | hplaced := Segment.error_cases hread
    · rw [hread] at h
      exact ⟨Reason.emptySegment.inj (Except.error.inj h), htext⟩
    · cases e with
      | emptySegment start => exact absurd rfl (hplaced start)
      | _ =>
        rw [hread] at h
        cases h

/-- Peeling takes off the next segment, and goes on with what is left behind it. -/
theorem peel_eq (text : List Char) :
    peel text =
      match next text with
      | .error e => [.error e]
      | .ok (segment, none) => [.ok (segment, none)]
      | .ok (segment, some rest) => .ok (segment, some rest) :: peel rest := by
  rw [peel]
  unfold next
  cases Segment.parse (piece text) with
  | error e => rfl
  | ok segment =>
    simp only [Except.map]
    split
    · next hnone => rw [hnone]
    · next rest hrest => rw [hrest]

/-- Peeling reads the pieces of the script one after the other, up to the first invalid one. -/
theorem map_peel (offset : Nat) (text : List Char) :
    (peel text).map (Except.map Prod.fst) =
      Except.uptoError ((pieces offset text).map fun p => Segment.parse p.text) := by
  cases hrest : rest? text with
  | none =>
    rw [peel_eq, next, hrest, pieces_of_end hrest]
    cases hread : Segment.parse (piece text) <;> simp [hread, Except.map, Except.uptoError]
  | some rest =>
    rw [peel_eq, next, hrest, pieces_of_rest hrest]
    cases hread : Segment.parse (piece text) with
    | error e => simp [hread, Except.map, Except.uptoError]
    | ok segment =>
      simp only [List.map_cons, hread, Except.map, Except.uptoError]
      rw [map_peel _ rest]
termination_by text.length
decreasing_by exact length_rest_lt hrest

theorem mapM_text_of_ok {tiles : List Piece} {placed : List PlacedSegment}
    (h : tiles.mapM Piece.parse = .ok placed) :
    tiles.mapM (fun p => Segment.parse p.text) = .ok (placed.map (·.segment)) := by
  rw [Except.mapM_eq_ok_iff] at h ⊢
  rw [List.forall₂_map_right_iff]
  exact h.imp fun p s hread => (Piece.parse_eq_ok_iff.1 hread).2

theorem mapM_text_of_error {tiles : List Piece} (h : tiles.mapM Piece.parse = .error reason) :
    tiles.mapM (fun p => Segment.parse p.text) = .error reason.unplaced := by
  obtain ⟨before, p, after, placed, rfl, hbefore, hp⟩ := Except.mapM_eq_error_iff.1 h
  refine Except.mapM_eq_error_iff.2 ⟨before, p, after, _, rfl, mapM_text_of_ok hbefore, ?_⟩
  rw [← Piece.parse_unplaced, hp]
  rfl

/-! ## Where empty segments are -/

/-- Every piece stands in the text at its offset, and ends with the text or at a dot. -/
theorem pieces_stand (offset : Nat) (text : List Char) :
    ∀ p ∈ pieces offset text, ∃ front back, text = front ++ (p.text ++ back) ∧
      p.offset = offset + byteCount front ∧ (back = [] ∨ ∃ rest, back = '.' :: rest) := by
  obtain ⟨lead, -, htext⟩ := exists_lead text
  have hstart := start_append offset lead (skipDot text)
  rw [← htext] at hstart
  obtain ⟨front, rest, hsplit, -, hfront⟩ | ⟨depth, hsplit, -⟩ := split_cases 0 (skipDot text)
  · have hgo : rest? text = some rest := by rw [rest?, hsplit]
    have hpiece : piece text = front := by rw [piece, hsplit]
    rw [hfront] at htext
    rw [pieces_of_rest hgo, hpiece, hstart, List.forall_mem_cons]
    refine ⟨⟨lead, '.' :: rest, htext, rfl, .inr ⟨rest, rfl⟩⟩, fun p hp => ?_⟩
    obtain ⟨before, back, hrest, hoffset, hback⟩ := pieces_stand _ rest p hp
    refine ⟨lead ++ (front ++ '.' :: before), back, ?_, ?_, hback⟩
    · rw [htext, hrest]
      simp
    · have hdot : '.'.utf8Size = 1 := rfl
      rw [hoffset, byteCount_append, byteCount_append, byteCount_cons, hdot]
      omega
  · have hend : rest? text = none := by rw [rest?, hsplit]
    have hpiece : piece text = skipDot text := by rw [piece, hsplit]
    rw [pieces_of_end hend, hpiece, hstart, List.forall_mem_singleton]
    exact ⟨lead, [], by rw [List.append_nil, ← htext], rfl, .inl rfl⟩
termination_by text.length
decreasing_by exact length_rest_lt hgo

/-- The offset is in the text, which ends there, or has a dot or an opening parenthesis there. -/
def IsBreak (source : String) (offset : Nat) : Prop :=
  offset ≤ source.utf8ByteSize ∧
    (offset = source.utf8ByteSize ∨ ∃ mark ∈ [".", "("], IsSlice source offset (offset + 1) mark)

theorem isBreak_of_mark {source : String} {front back : List Char} {mark : Char}
    (hsource : source.toList = front ++ mark :: back) (hmark : mark = '.' ∨ mark = '(') :
    IsBreak source (byteCount front) := by
  have hsize : byteCount [mark] = 1 := by rcases hmark with rfl | rfl <;> rfl
  have hslice : IsSlice source (byteCount front) (byteCount front + 1) (String.ofList [mark]) := by
    have h := isSlice_append front [mark] back
    rw [hsize, List.append_assoc, List.singleton_append, ← hsource, String.ofList_toList] at h
    exact h
  refine ⟨?_, .inr ⟨_, ?_, hslice⟩⟩
  · rw [← String.ofList_toList (s := source), ← byteCount_eq_utf8ByteSize, hsource,
      byteCount_append]
    omega
  · rcases hmark with rfl | rfl <;> simp

/-- The offset of an empty segment is where the text breaks. -/
theorem isBreak_of_parse {source : String} (h : parse source = .error (.emptySegment offset)) :
    IsBreak source offset := by
  rw [parse, Except.map_eq_error_iff] at h
  obtain ⟨before, p, after, _, hpieces, -, hp⟩ := Except.mapM_eq_error_iff.1 h
  obtain ⟨rfl, htext⟩ := Piece.of_parse_eq_emptySegment hp
  have hmem : p ∈ pieces 0 source.toList := by rw [hpieces]; simp
  obtain ⟨front, back, hsource, hoffset, hback⟩ := pieces_stand 0 source.toList p hmem
  rw [hoffset, Nat.zero_add]
  rcases htext with htext | ⟨rest, htext⟩
  · rw [htext, List.nil_append] at hsource
    rcases hback with rfl | ⟨rest, rfl⟩
    · have hsize : byteCount front = source.utf8ByteSize := by
        rw [List.append_nil] at hsource
        rw [← hsource, byteCount_eq_utf8ByteSize, String.ofList_toList]
      exact ⟨hsize.le, .inl hsize⟩
    · exact isBreak_of_mark hsource (.inl rfl)
  · rw [htext, List.cons_append] at hsource
    exact isBreak_of_mark hsource (.inr rfl)

/-! ## The two ways of reading -/

/-- Peeling any text gives the segments of the script that is read from it. If there is no such
    script, then peeling stops at the same reason, but for the offset of an empty segment; and that
    offset is where the text ends, or has a dot or an opening parenthesis. -/
theorem peeling_agrees_with_parsing (source : String) :
    (∀ script, parse source = .ok script →
      (peel source.toList).map (Except.map Prod.fst) =
        script.segments.map fun placed => .ok placed.segment) ∧
    (∀ reason, parse source = .error reason →
      ∃ segments : List Segment, (peel source.toList).map (Except.map Prod.fst) =
        segments.map .ok ++ [.error reason.unplaced]) ∧
    ∀ offset, parse source = .error (.emptySegment offset) → IsBreak source offset := by
  refine ⟨fun script h => ?_, fun reason h => ?_, fun offset h => isBreak_of_parse h⟩
  · rw [parse, Except.map_eq_ok_iff] at h
    obtain ⟨placed, hread, rfl⟩ := h
    rw [map_peel 0, Except.uptoError_of_ok (mapM_text_of_ok hread), List.map_map]
    rfl
  · rw [parse, Except.map_eq_error_iff] at h
    rw [map_peel 0]
    exact Except.uptoError_of_error (mapM_text_of_error h)

/-- A script that is peeled to its end, and one that stops at a call without a name. The two dots in
    front of that call and the letters of two bytes count for its offset. -/
theorem nameless_call_stops_peeling :
    parse Sample.untidy.source = .ok Sample.untidy ∧
    (peel Sample.untidy.source.toList).map (Except.map Prod.fst) =
      Sample.untidy.segments.map (fun placed => .ok placed.segment) ∧
    parse "größe..(%1).len()" = .error (.emptySegment 9) ∧
    (∃ segments : List Segment, (peel "größe..(%1).len()".toList).map (Except.map Prod.fst) =
      segments.map .ok ++ [.error (.emptySegment 0)]) ∧
    IsBreak "größe..(%1).len()" 9 := by
  have hnameless : parse "größe..(%1).len()" = .error (.emptySegment 9) := by decide +kernel
  obtain ⟨hsegments, -, -⟩ := peeling_agrees_with_parsing Sample.untidy.source
  obtain ⟨-, hstop, hbreak⟩ := peeling_agrees_with_parsing "größe..(%1).len()"
  exact ⟨parse_untidy, hsegments _ parse_untidy, hnameless, hstop _ hnameless, hbreak _ hnameless⟩

end Script

end ObjectPath
