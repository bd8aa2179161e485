import ObjectPath.Script.Basic
import ObjectPath.Proofs.Results

/-!
# Where a script is cut

A script is read from left to right: a dot in front of a piece is skipped, and the next dot outside
parentheses ends the piece. Whether a text is cut inside depends only on the parentheses that are
open behind each of its characters, of which closing too many does no harm. If none are open at its
end, the piece ends with the next dot; otherwise it goes on.

So a text is cut into pieces in one way only, which `Cut` says without running through it: a piece
behind at most one dot, and then either the end of the text, or a dot and the other pieces.

Results:
* `Script.split_cases`: a text is cut at a dot where no parentheses are open, or not at all.
* `Script.Cut.pieces_eq`, `Script.cut_pieces`: the pieces that a text is cut into.
* `Script.parse_eq_ok_iff`: which scripts are read from a text.
-/

namespace ObjectPath

theorem Text.byteCount_eq_utf8ByteSize (text : List Char) :
    byteCount text = (String.ofList text).utf8ByteSize := by
  induction text with
  | nil => rfl
  | cons c rest ih =>
    rw [byteCount, ih, String.ofList_cons, String.utf8ByteSize_append,
      String.utf8ByteSize_singleton]

namespace Script

open Text

variable {offset depth : Nat} {text front back lead : List Char} {tiles : List Piece}

/-! ## Open parentheses -/

/-- The number of parentheses that are open behind the text, unless it is cut before its end. -/
def openAfter : Nat → List Char → Option Nat
  | depth, [] => some depth
  | depth, c :: rest =>
    if c = '.' ∧ depth = 0 then none
    else openAfter (if c = '(' then depth + 1 else if c = ')' then depth - 1 else depth) rest

theorem openAfter_append (depth : Nat) (front back : List Char) :
    openAfter depth (front ++ back) = (openAfter depth front).bind (openAfter · back) := by
  induction front generalizing depth with
  | nil => rfl
  | cons c rest ih =>
    rw [List.cons_append, openAfter, openAfter]
    split
    · rfl
    · exact ih _

/-- A closing parenthesis outside parentheses changes nothing. -/
theorem openAfter_of_plain (h : ∀ c ∈ text, c ≠ '.' ∧ c ≠ '(') : openAfter 0 text = some 0 := by
  induction text with
  | nil => rfl
  | cons c rest ih =>
    obtain ⟨⟨hdot, hopening⟩, hrest⟩ := List.forall_mem_cons.1 h
    simp [openAfter, hdot, hopening, ih hrest]

theorem openAfter_of_no_parentheses (h : ∀ c ∈ text, c ≠ '.' ∧ c ≠ '(' ∧ c ≠ ')') (depth : Nat) :
    openAfter depth text = some depth := by
  induction text with
  | nil => rfl
  | cons c rest ih =>
    obtain ⟨⟨hdot, hopening, hclosing⟩, hrest⟩ := List.forall_mem_cons.1 h
    simp [openAfter, hdot, hopening, hclosing, ih hrest]

theorem openAfter_of_no_dot (h : '.' ∉ text) (depth : Nat) :
    ∃ left, openAfter depth text = some left := by
  induction text generalizing depth with
  | nil => exact ⟨depth, rfl⟩
  | cons c rest ih =>
    rw [List.mem_cons, not_or] at h
    have hdot : ¬(c = '.' ∧ depth = 0) := fun hc => h.1 hc.1.symm
    rw [openAfter, if_neg hdot]
    exact ih h.2 _

/-- In front of the first opening parenthesis there is no dot that the text is not cut at. -/
theorem no_dot_of_openAfter (h : openAfter 0 (front ++ back) ≠ none) (hopening : '(' ∉ front) :
    '.' ∉ front := by
  induction front with
  | nil => exact List.not_mem_nil
  | cons c rest ih =>
    rw [List.mem_cons, not_or] at hopening ⊢
    have hc : c ≠ '(' := Ne.symm hopening.1
    rw [List.cons_append, openAfter] at h
    split at h
    · exact absurd rfl h
    · next hdot =>
      rw [ite_self] at h
      exact ⟨fun heq => hdot ⟨heq.symm, rfl⟩, ih h hopening.2⟩

/-! ## The first dot outside parentheses -/

theorem split_append (h : openAfter depth front = some offset) (back : List Char) :
    split depth (front ++ back) = (front ++ (split offset back).1, (split offset back).2) := by
  induction front generalizing depth with
  | nil =>
    obtain rfl : depth = offset := Option.some.inj h
    rfl
  | cons c rest ih =>
    rw [openAfter] at h
    split at h
    · cases h
    · next hdot => simp only [List.cons_append, split, if_neg hdot, ih h]

theorem split_append_dot (h : openAfter depth front = some 0) (rest : List Char) :
    split depth (front ++ '.' :: rest) = (front, some rest) := by
  rw [split_append h]
  simp [split]

theorem split_of_uncut (h : openAfter 0 text = some depth) : split 0 text = (text, none) := by
  have happend := split_append h []
  simpa [split] using happend

/-- A text is cut at a dot behind which no parentheses are open, or not at all. -/
theorem split_cases (depth : Nat) (text : List Char) :
    (∃ front rest, split depth text = (front, some rest) ∧ openAfter depth front = some 0 ∧
      text = front ++ '.' :: rest) ∨
    ∃ left, split depth text = (text, none) ∧ openAfter depth text = some left := by
  induction text generalizing depth with
  | nil => exact .inr ⟨depth, rfl, rfl⟩
  | cons c cs ih =>
    by_cases hdot : c = '.' ∧ depth = 0
    · refine .inl ⟨[], cs, ?_, ?_, ?_⟩
      · rw [split, if_pos hdot]
      · rw [openAfter, hdot.2]
      · rw [hdot.1, List.nil_append]
    · obtain ⟨front, rest, hsplit, hopen, rfl⟩ | ⟨left, hsplit, hopen⟩ :=
        ih (if c = '(' then depth + 1 else if c = ')' then depth - 1 else depth)
      · refine .inl ⟨c :: front, rest, ?_, ?_, rfl⟩
        · simp only [split, if_neg hdot, hsplit]
        · rw [openAfter, if_neg hdot, hopen]
      · refine .inr ⟨left, ?_, ?_⟩
        · simp only [split, if_neg hdot, hsplit]
        · rw [openAfter, if_neg hdot, hopen]

/-! ## The dot in front of a piece -/

/-- At most one dot. -/
def IsLead (lead : List Char) : Prop := lead = [] ∨ lead = ['.']

theorem exists_lead (text : List Char) : ∃ lead, IsLead lead ∧ text = lead ++ skipDot text := by
  unfold skipDot
  split
  · exact ⟨['.'], .inr rfl, rfl⟩
  · exact ⟨[], .inl rfl, rfl⟩

theorem skipDot_append (hlead : IsLead lead) (hne : front ≠ [])
    (hopen : openAfter 0 front = some depth) (back : List Char) :
    skipDot (lead ++ (front ++ back)) = front ++ back := by
  rcases hlead with rfl | rfl
  · cases front with
    | nil => exact absurd rfl hne
    | cons c rest =>
      have hc : c ≠ '.' := by
        rintro rfl
        simp [openAfter] at hopen
      rw [List.nil_append, List.cons_append, skipDot.eq_2]
      rintro other heq
      exact hc (List.cons.inj heq).1
  · rfl

/-! ## Pieces -/

/-- The text, which starts at the given offset, consists of the pieces: none of them is empty, each
    has at most one dot in front, and a dot where no parentheses are open separates it from the
    next one. -/
inductive Cut : Nat → List Char → List Piece → Prop
  | last {offset depth : Nat} {lead text : List Char} (hlead : IsLead lead) (hne : text ≠ [])
      (hopen : openAfter 0 text = some depth) :
      Cut offset (lead ++ text) [⟨offset + byteCount lead, text⟩]
  | more {offset : Nat} {lead text rest : List Char} {tiles : List Piece} (hlead : IsLead lead)
      (hne : text ≠ []) (hclosed : openAfter 0 text = some 0)
      (hrest : Cut (offset + byteCount lead + byteCount text + 1) rest tiles) :
      Cut offset (lead ++ (text ++ '.' :: rest)) (⟨offset + byteCount lead, text⟩ :: tiles)

theorem pieces_of_end (h : rest? text = none) (offset : Nat) :
    pieces offset text =
      [⟨offset + byteCount text - byteCount (skipDot text), piece text⟩] := by
  rw [pieces]
  split
  · rfl
  · next rest hrest =>
    rw [h] at hrest
    cases hrest

theorem pieces_of_rest {rest : List Char} (h : rest? text = some rest) (offset : Nat) :
    pieces offset text =
      ⟨offset + byteCount text - byteCount (skipDot text), piece text⟩ ::
        pieces (offset + byteCount text - byteCount (skipDot text) + byteCount (piece text) + 1)
          rest := by
  rw [pieces]
  split
  · next hnone =>
    rw [h] at hnone
    cases hnone
  · next other hother =>
    obtain rfl : rest = other := Option.some.inj (h.symm.trans hother)
    rfl

theorem start_append (offset : Nat) (lead text : List Char) :
    offset + byteCount (lead ++ text) - byteCount text = offset + byteCount lead := by
  rw [byteCount_append]
  omega

/-- The pieces that a text consists of are the ones that it is cut into. -/
theorem Cut.pieces_eq (h : Cut offset text tiles) : pieces offset text = tiles := by
  induction h with
  | @last offset depth lead text hlead hne hopen =>
    have hskip : skipDot (lead ++ text) = text := by
      simpa using skipDot_append hlead hne hopen []
    have hend : rest? (lead ++ text) = none := by rw [rest?, hskip, split_of_uncut hopen]
    rw [pieces_of_end hend, hskip, start_append, piece, hskip, split_of_uncut hopen]
  | @more offset lead text rest tiles hlead hne hclosed hrest ih =>
    have hskip := skipDot_append hlead hne hclosed ('.' :: rest)
    have hgo : rest? (lead ++ (text ++ '.' :: rest)) = some rest := by
      rw [rest?, hskip, split_append_dot hclosed]
    have hpiece : piece (lead ++ (text ++ '.' :: rest)) = text := by
      rw [piece, hskip, split_append_dot hclosed]
    rw [pieces_of_rest hgo, hskip, start_append, hpiece, ih]

/-- A text consists of the pieces that it is cut into, if none of them is empty. -/
theorem cut_pieces (offset : Nat) (text : List Char) (h : ∀ p ∈ pieces offset text, p.text ≠ []) :
    Cut offset text (pieces offset text) := by
  obtain ⟨lead, hlead, htext⟩ := exists_lead text
  have hstart := start_append offset lead (skipDot text)
  rw [← htext] at hstart
  obtain ⟨front, rest, hsplit, hclosed, hfront⟩ | ⟨depth, hsplit, hopen⟩ :=
    split_cases 0 (skipDot text)
  · have hgo : rest? text = some rest := by rw [rest?, hsplit]
    have hpiece : piece text = front := by rw [piece, hsplit]
    rw [pieces_of_rest hgo, hpiece, hstart] at h ⊢
    obtain ⟨hne, hrest⟩ := List.forall_mem_cons.1 h
    have hcut := Cut.more hlead hne hclosed (cut_pieces _ rest hrest)
    rwa [← hfront, ← htext] at hcut
  · have hend : rest? text = none := by rw [rest?, hsplit]
    have hpiece : piece text = skipDot text := by rw [piece, hsplit]
    rw [pieces_of_end hend, hpiece, hstart] at h ⊢
    have hcut : Cut offset _ _ := .last hlead (h _ List.mem_cons_self) hopen
    rwa [← htext] at hcut
termination_by text.length
decreasing_by exact length_rest_lt hgo

/-! ## Reading the pieces -/

theorem ne_nil_of_parse {segment : Segment} (h : Segment.parse text = .ok segment) :
    text ≠ [] := by
  rintro rfl
  cases h

/-- A piece is read as a segment with the offset of the piece. -/
def Piece.ReadAs (p : Piece) (placed : PlacedSegment) : Prop :=
  placed.offset = p.offset ∧ Segment.parse p.text = .ok placed.segment

theorem Piece.parse_eq_ok_iff {p : Piece} {placed : PlacedSegment} :
    p.parse = .ok placed ↔ p.ReadAs placed := by
  rcases placed with ⟨start, segment⟩
  unfold Piece.parse ReadAs
  cases hread : Segment.parse p.text with
  | ok found => simp [eq_comm]
  | error e => cases e <;> simp

/-- The scripts that are read from a text: the text consists of pieces, and each of them is read as
    the segment at its offset. -/
theorem parse_eq_ok_iff {source : String} {script : Script} :
    Script.parse source = .ok script ↔ script.source = source ∧
      ∃ tiles, Cut 0 source.toList tiles ∧ List.Forall₂ Piece.ReadAs tiles script.segments := by
  rw [Script.parse, Except.map_eq_ok_iff]
  simp only [Except.mapM_eq_ok_iff, Piece.parse_eq_ok_iff]
  constructor
  · rintro ⟨segments, hread, rfl⟩
    have hboth := hread.imp fun _ _ h => And.intro (ne_nil_of_parse h.2) h
    obtain ⟨hne, -⟩ := (List.forall₂_and_left _ _).1 hboth
    exact ⟨rfl, _, cut_pieces 0 source.toList hne, hread⟩
  · rintro ⟨rfl, tiles, hcut, hread⟩
    rw [← hcut.pieces_eq] at hread
    exact ⟨script.segments, hread, rfl⟩

end Script

end ObjectPath
