import EpaperLayout.Proofs.Snippet.ReadingInPlace

/-!
# Any text is read safely in place

Whatever a text is, a well-formed routine or not, it is read in place without a slice that
fails, in no more rounds than it has bytes.  Offsets and lines of the masked copy are
those of the text, and the line comments are stretches of it that do not meet.

**Results.**
* `masksInPlace_pieces`: the masked copy differs from the text only by blanks.
* `standsIn_of_mem_comments`, `pairwise_comments`: where the line comments stand.
* `lineAt_eq`, `lineOf_eq`: the number of a line counts the line feeds before it.
* `Scan.exists_ofText_safe`: all of this for any text.
-/

namespace EpaperLayout
namespace Snippet

section Masked

/-- The copy has a blank or the same byte at every offset, and line feeds at the same ones. -/
structure MasksInPlace (bytes masked : List UInt8) : Prop where
  length_eq : masked.length = bytes.length
  newline_iff : ∀ offset : Nat,
    masked[offset]? = some '\n'.toUInt8 ↔ bytes[offset]? = some '\n'.toUInt8
  kept_or_blank : ∀ offset : Nat,
    masked[offset]? = bytes[offset]? ∨ masked[offset]? = some ' '.toUInt8

theorem MasksInPlace.refl (bytes : List UInt8) : MasksInPlace bytes bytes :=
  ⟨rfl, fun _ => Iff.rfl, fun _ => Or.inl rfl⟩

theorem MasksInPlace.append
    {first second firstMasked secondMasked : List UInt8}
    (h : MasksInPlace first firstMasked)
    (hsecond : MasksInPlace second secondMasked) :
    MasksInPlace (first ++ second) (firstMasked ++ secondMasked) := by
  refine ⟨?_, ?_, ?_⟩
  · rw [List.length_append, List.length_append, h.length_eq, hsecond.length_eq]
  · intro offset
    rw [List.getElem?_append, List.getElem?_append, h.length_eq]
    split
    · exact h.newline_iff offset
    · exact hsecond.newline_iff _
  · intro offset
    rw [List.getElem?_append, List.getElem?_append, h.length_eq]
    split
    · exact h.kept_or_blank offset
    · exact hsecond.kept_or_blank _

theorem masksInPlace_map_blankByte (bytes : List UInt8) :
    MasksInPlace bytes (bytes.map blankByte) := by
  have hfeed : '\n'.toUInt8 = 10 := by decide
  refine ⟨List.length_map _, ?_, ?_⟩
  · intro offset
    rw [List.getElem?_map, hfeed]
    cases bytes[offset]? with
    | none => simp
    | some byte =>
        by_cases hbyte : byte = 10 <;> simp [blankByte, hbyte]
  · intro offset
    rw [List.getElem?_map]
    cases bytes[offset]? with
    | none => exact Or.inl rfl
    | some byte =>
        by_cases hbyte : byte = 10
        · exact Or.inl (congrArg some (if_pos hbyte))
        · exact Or.inr (congrArg some (if_neg hbyte))

/-- **The masked copy** of pieces differs from their text only by blanks. -/
theorem masksInPlace_pieces (pieces : List Piece) :
    MasksInPlace (Text.encode (pieces.flatMap Piece.text))
      (Text.encode (pieces.flatMap Piece.masked)) := by
  have hpiece (piece : Piece) :
      MasksInPlace (Text.encode piece.text) (Text.encode piece.masked) := by
    have hhidden (text : List Char) :
        MasksInPlace (Text.encode text) (Text.encode (text.flatMap Piece.blankOut)) := by
      rw [encode_flatMap_blankOut]
      exact masksInPlace_map_blankByte _
    cases piece with
    | code c => exact MasksInPlace.refl _
    | lineComment body => exact hhidden _
    | blockComment text => exact hhidden _
    | literal text => exact hhidden _
  induction pieces with
  | nil =>
      exact MasksInPlace.refl _
  | cons piece rest ih =>
      rw [List.flatMap_cons, List.flatMap_cons, Text.encode_append, Text.encode_append]
      exact (hpiece piece).append ih

end Masked

section Comments

/-- Where a line comment ends. -/
def LineComment.stop (comment : LineComment) : Nat :=
  comment.offset + Text.byteSize ('/' :: '/' :: comment.body)

/-- The comment is two slashes of the text with what is behind them up to the end of the line. -/
def LineComment.StandsIn (text : List Char) (comment : LineComment) : Prop :=
  ∃ before after, text = before ++ '/' :: '/' :: (comment.body ++ after) ∧
    comment.offset = Text.byteSize before ∧ '\n' ∉ comment.body ∧
    (after = [] ∨ after.head? = some '\n')

theorem newline_notMem_of_nextPiece
    {word rest body following : List Char} {c : Char}
    (h : nextPiece word c rest = (.lineComment body, following)) :
    '\n' ∉ body := by
  unfold nextPiece at h
  split at h
  · obtain ⟨hbody, -⟩ := Prod.mk.inj h
    rw [← Piece.lineComment.inj hbody]
    intro hmem
    simpa using List.mem_takeWhile_imp hmem
  · exfalso
    split at h
    · cases h
    · split at h
      · cases h
      · split at h
        · cases h
        · split at h <;> cases h

/-- A line comment has no line feed. -/
theorem newline_notMem_of_mem_piecesAfter
    {word cs body : List Char}
    (h : Piece.lineComment body ∈ piecesAfter word cs) :
    '\n' ∉ body := by
  fun_induction piecesAfter word cs with
  | case1 =>
      cases h
  | case2 word c rest ih =>
      rcases List.mem_cons.mp h with hfirst | hlater
      · exact newline_notMem_of_nextPiece (Prod.ext hfirst.symm rfl)
      · exact ih hlater

/-- **A line comment** is a stretch of the text up to the end of its line. -/
theorem standsIn_of_mem_comments
    {text : List Char} {comment : LineComment}
    (h : comment ∈ lineCommentsFrom 0 (pieces text)) :
    comment.StandsIn text := by
  obtain ⟨before, after, hpieces, hoffset⟩ := exists_append_of_mem_lineCommentsFrom h
  have hmem : Piece.lineComment comment.body ∈ pieces text := by
    rw [hpieces]
    simp
  refine ⟨before.flatMap Piece.text, after.flatMap Piece.text, ?_, ?_,
    newline_notMem_of_mem_piecesAfter hmem, ?_⟩
  · have htext := flatMap_text_piecesAfter [] text
    rw [← pieces, hpieces] at htext
    rw [← htext, List.flatMap_append, List.flatMap_cons]
    rfl
  · rw [hoffset, Nat.zero_add]
  · rcases piecesAfter_behind_lineComment hpieces with rfl | ⟨rest, rfl⟩
    · exact Or.inl rfl
    · exact Or.inr rfl

/-- The line comments come one after another. -/
theorem pairwise_lineCommentsFrom (offset : Nat) (pieces : List Piece) :
    (lineCommentsFrom offset pieces).Pairwise fun a b => a.stop ≤ b.offset := by
  induction pieces generalizing offset with
  | nil =>
      exact List.Pairwise.nil
  | cons piece rest ih =>
      cases piece with
      | lineComment body =>
          rw [lineCommentsFrom, List.pairwise_cons]
          exact ⟨fun comment hcomment => (bounds_of_mem_lineCommentsFrom hcomment).1, ih _⟩
      | code c => exact ih _
      | blockComment text => exact ih _
      | literal text => exact ih _

end Comments

section LineNumbers

/-- The offsets behind the line feeds of bytes that begin at an offset. -/
def lineStartsFrom (offset : Nat) : List UInt8 → List Nat
  | [] => []
  | byte :: rest =>
    if byte = '\n'.toUInt8 then (offset + 1) :: lineStartsFrom (offset + 1) rest
    else lineStartsFrom (offset + 1) rest

/-- The number of the line that holds an offset, found among the offsets at which lines begin. -/
def lineAt (firstLine : Nat) (bytes : List UInt8) (offset : Nat) : Nat :=
  firstLine + ((0 :: lineStartsFrom 0 bytes).takeWhile (· ≤ offset)).length - 1

/-- The line feeds before an offset begin the lines up to it. -/
theorem length_takeWhile_lineStartsFrom (start offset : Nat) (bytes : List UInt8) :
    ((lineStartsFrom start bytes).takeWhile (· ≤ offset)).length =
      (bytes.take (offset - start)).count '\n'.toUInt8 := by
  induction bytes generalizing start with
  | nil =>
      simp [lineStartsFrom]
  | cons byte rest ih =>
      have hrest := ih (start + 1)
      rw [lineStartsFrom]
      by_cases hstart : start + 1 ≤ offset
      · obtain ⟨count, hcount⟩ : ∃ count, offset - start = count + 1 :=
          ⟨offset - (start + 1), by omega⟩
        have hfewer : offset - (start + 1) = count := by omega
        rw [hfewer] at hrest
        by_cases hbyte : byte = '\n'.toUInt8
        · rw [if_pos hbyte, List.takeWhile_cons_of_pos (by simpa using hstart), List.length_cons,
            hrest, hcount, List.take_succ_cons, hbyte, List.count_cons_self]
        · rw [if_neg hbyte, hrest, hcount, List.take_succ_cons, List.count_cons_of_ne hbyte]
      · have hnone : offset - start = 0 := by omega
        have hfewer : offset - (start + 1) = 0 := by omega
        rw [hfewer] at hrest
        rw [hnone]
        by_cases hbyte : byte = '\n'.toUInt8
        · rw [if_pos hbyte, List.takeWhile_cons_of_neg (by simpa using hstart)]
          rfl
        · rw [if_neg hbyte, hrest]
          rfl

/-- **The number of a line** that is looked up counts the line feeds before the offset. -/
theorem lineAt_eq (firstLine : Nat) (bytes : List UInt8) (offset : Nat) :
    lineAt firstLine bytes offset = firstLine + (bytes.take offset).count '\n'.toUInt8 := by
  rw [lineAt, List.takeWhile_cons_of_pos (by simp), List.length_cons,
    length_takeWhile_lineStartsFrom, Nat.sub_zero, ← Nat.add_assoc, Nat.add_sub_cancel]

/-- The line feeds of a text before an offset are those of its bytes. -/
theorem countP_locate (start offset : Nat) (cs : List Char) :
    (locate start cs).countP (fun place => place.char = '\n' && place.offset < offset) =
      ((Text.encode cs).take (offset - start)).count '\n'.toUInt8 := by
  induction cs generalizing start with
  | nil =>
      simp [locate, Text.encode]
  | cons c rest ih =>
      have hfirst : ((String.utf8EncodeChar c).take (offset - start)).count '\n'.toUInt8 =
          if c = '\n' && start < offset then 1 else 0 := by
        by_cases hc : c = '\n'
        · rw [hc, Text.encodeChar_of_lt (by decide)]
          by_cases hlt : start < offset
          · rw [List.take_of_length_le (by rw [List.length_singleton]; omega)]
            simp [hlt]
          · rw [Nat.sub_eq_zero_of_le (Nat.le_of_not_lt hlt)]
            simp [hlt]
        · have hnone : '\n'.toUInt8 ∉ (String.utf8EncodeChar c).take (offset - start) :=
            fun hmem => hc (Text.eq_of_mem_encodeChar (by decide) (List.mem_of_mem_take hmem))
          rw [List.count_eq_zero_of_not_mem hnone]
          simp [hc]
      rw [locate, List.countP_cons, ih, Text.encode_cons, List.take_append, List.count_append,
        String.length_utf8EncodeChar, Nat.sub_sub, Nat.add_comm, hfirst]

/-- **The number of a line** of a routine counts the line feeds before the offset. -/
theorem lineOf_eq (lambda : Lambda) (offset : Nat) :
    lambda.lineOf offset =
      lambda.firstLine + ((Text.encode lambda.text).take offset).count '\n'.toUInt8 := by
  rw [Lambda.lineOf, countP_locate, Nat.sub_zero]

end LineNumbers

/-- **Any text is read safely in place.**  No slice fails and the reader comes to the end, with the
masked text and the line comments of the routine.  The masked copy is a text with a blank or the
same byte at every offset; the line comments reach to the ends of their lines and do not meet; and
the number of a line counts the line feeds before the offset. -/
theorem Scan.exists_ofText_safe (text : String) :
    ∃ scan, Scan.ofText? text.toList = some scan ∧
      scan.masked = Text.encode (Lambda.ofText text).masked ∧
      scan.comments = (Lambda.ofText text).comments ∧
      MasksInPlace (Text.encode text.toList) scan.masked ∧
      (Text.decode? scan.masked).isSome = true ∧
      (∀ comment ∈ scan.comments, comment.StandsIn text.toList) ∧
      (scan.comments.Pairwise fun a b => a.offset < b.offset ∧ a.stop ≤ b.offset) ∧
      ∀ firstLine offset,
        ((Lambda.ofText text).startingAt firstLine).lineOf offset =
            lineAt firstLine (Text.encode text.toList) offset ∧
          lineAt firstLine (Text.encode text.toList) offset =
            firstLine + ((Text.encode text.toList).take offset).count '\n'.toUInt8 := by
  have hread : Scan.ofText? text.toList =
      some (Scan.behind (Text.encode (Lambda.ofText text).masked) (Lambda.ofText text).comments
        []) :=
    Scan.ofText?_eq text.toList
  have hmasked : (Scan.behind (Text.encode (Lambda.ofText text).masked)
      (Lambda.ofText text).comments []).masked = Text.encode (Lambda.ofText text).masked :=
    List.append_nil _
  refine ⟨_, hread, hmasked, rfl, ?_, ?_, ?_, ?_, ?_⟩
  · have hpieces := masksInPlace_pieces (pieces text.toList)
    rw [pieces, flatMap_text_piecesAfter] at hpieces
    rw [hmasked]
    exact hpieces
  · rw [hmasked, Text.decode?_encode]
    rfl
  · exact fun comment hcomment => standsIn_of_mem_comments hcomment
  · refine (pairwise_lineCommentsFrom 0 (pieces text.toList)).imp ?_
    intro a b hstop
    refine ⟨Nat.lt_of_lt_of_le ?_ hstop, hstop⟩
    have hpos := ('/' : Char).utf8Size_pos
    rw [LineComment.stop, Text.byteSize_cons]
    omega
  · intro firstLine offset
    refine ⟨?_, lineAt_eq firstLine _ offset⟩
    rw [lineAt_eq, lineOf_eq]
    rfl

end Snippet
end EpaperLayout
