import EpaperLayout.Proofs.Snippet.EscapedText
import EpaperLayout.Proofs.Snippet.Places

/-!
# Routines made of fragments

A routine that is written piece by piece is cut into the same pieces again when it
is read, as long as no piece can run over its end.  A *fragment* is a stretch of
text for which that is sure, whatever comes before and behind it: code without
slashes and quotes, a division sign with the blank behind it, a literal of closed
text with the blank before it, and a line comment with its line feed.

**Results.**
* `piecesAfter_flatMap`: a text of fragments is cut into the pieces of the fragments.
* `byteSize_masked`: masking keeps all offsets.
* `masked_literal`, `masked_comment`: what is left of literals and comments is blank.
-/

namespace EpaperLayout
namespace Snippet

/-- A stretch of a routine that is read the same wherever it stands. -/
inductive Fragment where
  /-- Code without slashes and quotes. -/
  | code (text : List Char)
  /-- A division sign with the blank behind it. -/
  | division
  /-- A literal with the blank before it. -/
  | literal (body : List Char)
  /-- A line comment with the line feed behind it. -/
  | comment (body : List Char)
deriving DecidableEq, Repr

/-- Printable characters of code on one line, in which no comment and no literal begins. -/
def Plain (cs : List Char) : Prop :=
  ∀ c ∈ cs, needsOctal c = false ∧ c ≠ '/' ∧ c ≠ '"' ∧ c ≠ '\''

instance (cs : List Char) : Decidable (Plain cs) :=
  inferInstanceAs (Decidable (∀ c ∈ cs, needsOctal c = false ∧ c ≠ '/' ∧ c ≠ '"' ∧ c ≠ '\''))

namespace Fragment

/-- The text of a fragment. -/
def text : Fragment → List Char
  | .code text => text
  | .division => ['/', ' ']
  | .literal body => ' ' :: '"' :: (body ++ ['"'])
  | .comment body => '/' :: '/' :: (body ++ ['\n'])

/-- The pieces of a fragment. -/
def pieces : Fragment → List Piece
  | .code text => text.map Piece.code
  | .division => [.code '/', .code ' ']
  | .literal body => [.code ' ', .literal ('"' :: (body ++ ['"']))]
  | .comment body => [.lineComment body, .code '\n']

/-- No piece of the fragment runs over its end. -/
def WellFormed : Fragment → Prop
  | .code text => ∀ c ∈ text, c ≠ '/' ∧ c ≠ '"' ∧ c ≠ '\''
  | .division => True
  | .literal body => Closed body
  | .comment body => '\n' ∉ body

/-- The fragment is well-formed and stays on one line. -/
def OnOneLine : Fragment → Prop
  | .code text => Plain text
  | .division => True
  | .literal body => Closed body ∧ Clean body
  | .comment _ => False

theorem OnOneLine.wellFormed
    {fragment : Fragment}
    (h : fragment.OnOneLine) :
    fragment.WellFormed := by
  cases fragment with
  | code text =>
      exact fun c hc => (h c hc).2
  | division =>
      exact trivial
  | literal body =>
      exact h.1
  | comment body =>
      exact h.elim

/-- A fragment on one line holds no control characters and no line breaks. -/
theorem OnOneLine.clean_text
    {fragment : Fragment}
    (h : fragment.OnOneLine) :
    Clean fragment.text := by
  cases fragment with
  | code text =>
      exact fun c hc => (h c hc).1
  | division =>
      change Clean ['/', ' ']
      decide
  | literal body =>
      have hopen : Clean [' ', '"'] := by decide
      have hclose : Clean ['"'] := by decide
      exact hopen.append (h.2.append hclose)
  | comment body =>
      exact h.elim

/-- The text of a fragment with comments and literals blanked out. -/
def masked (fragment : Fragment) : List Char :=
  fragment.pieces.flatMap Piece.masked

end Fragment

section Pieces

theorem nextPiece_code
    {c : Char}
    (h : c ≠ '/' ∧ c ≠ '"' ∧ c ≠ '\'')
    (word rest : List Char) :
    nextPiece word c rest = (.code c, rest) := by
  obtain ⟨hslash, hdouble, hsingle⟩ := h
  simp [nextPiece, hslash, hdouble, hsingle]

theorem piecesAfter_code
    {text : List Char}
    (h : ∀ c ∈ text, c ≠ '/' ∧ c ≠ '"' ∧ c ≠ '\'')
    (word : List Char) :
    ∃ word', ∀ rest,
      piecesAfter word (text ++ rest) = text.map Piece.code ++ piecesAfter word' rest := by
  induction text generalizing word with
  | nil =>
      exact ⟨word, fun rest => rfl⟩
  | cons c text ih =>
      have htext : ∀ d ∈ text, d ≠ '/' ∧ d ≠ '"' ∧ d ≠ '\'' := by
        intro d hd
        exact h d (List.mem_cons_of_mem _ hd)
      obtain ⟨word', hword'⟩ := ih htext (wordAfter word (.code c))
      refine ⟨word', ?_⟩
      intro rest
      rw [List.cons_append, piecesAfter, nextPiece_code (h c List.mem_cons_self)]
      simp only
      rw [hword', List.map_cons, List.cons_append]

theorem piecesAfter_division (word rest : List Char) :
    piecesAfter word ('/' :: ' ' :: rest) =
      .code '/' :: .code ' ' :: piecesAfter [] rest := by
  have hslash : nextPiece word '/' (' ' :: rest) = (.code '/', ' ' :: rest) := by
    simp [nextPiece]
  have hblank : ∀ word, nextPiece word ' ' rest = (.code ' ', rest) := by
    intro word
    exact nextPiece_code (by decide) word rest
  rw [piecesAfter, hslash]
  simp only
  rw [piecesAfter, hblank]
  rfl

theorem piecesAfter_literal
    {body : List Char}
    (h : Closed body)
    (word rest : List Char) :
    piecesAfter word (' ' :: '"' :: (body ++ '"' :: rest)) =
      .code ' ' :: .literal ('"' :: (body ++ ['"'])) :: piecesAfter [] rest := by
  have hliteral :
      nextPiece [] '"' (body ++ '"' :: rest) = (.literal ('"' :: (body ++ ['"'])), rest) := by
    have hraw : ([] : List Char) ∉ rawMarks := by decide
    simp [nextPiece, hraw, h.splitQuoted_eq]
  rw [piecesAfter, nextPiece_code (by decide)]
  simp only
  have hword : wordAfter word (.code ' ') = [] := rfl
  rw [hword, piecesAfter, hliteral]
  rfl

/-- A line is read up to its line feed. -/
theorem splitLine_of_newline_notMem
    {body after : List Char}
    (hbody : '\n' ∉ body)
    (hafter : after = [] ∨ after.head? = some '\n') :
    splitLine (body ++ after) = (body, after) := by
  have hall : ∀ c ∈ body, decide (c ≠ '\n') = true := by
    intro c hc
    rw [decide_eq_true_eq]
    rintro rfl
    exact hbody hc
  rw [splitLine, List.takeWhile_append_of_pos hall, List.dropWhile_append_of_pos hall]
  rcases hafter with rfl | hafter
  · simp
  · obtain ⟨rest, rfl⟩ := List.head?_eq_some_iff.mp hafter
    simp

theorem nextPiece_lineComment
    {body after : List Char}
    (hbody : '\n' ∉ body)
    (hafter : after = [] ∨ after.head? = some '\n')
    (word : List Char) :
    nextPiece word '/' ('/' :: (body ++ after)) = (.lineComment body, after) := by
  simp [nextPiece, splitLine_of_newline_notMem hbody hafter]

theorem piecesAfter_comment
    {body : List Char}
    (h : '\n' ∉ body)
    (word rest : List Char) :
    piecesAfter word ('/' :: '/' :: (body ++ '\n' :: rest)) =
      .lineComment body :: .code '\n' :: piecesAfter [] rest := by
  rw [piecesAfter, nextPiece_lineComment h (Or.inr rfl)]
  simp only
  rw [piecesAfter, nextPiece_newline]
  rfl

/-- A fragment is cut into its pieces, whatever follows it. -/
theorem exists_piecesAfter_fragment
    {fragment : Fragment}
    (h : fragment.WellFormed)
    (word : List Char) :
    ∃ word', ∀ rest,
      piecesAfter word (fragment.text ++ rest) = fragment.pieces ++ piecesAfter word' rest := by
  cases fragment with
  | code text =>
      exact piecesAfter_code h word
  | division =>
      exact ⟨[], piecesAfter_division word⟩
  | literal body =>
      refine ⟨[], ?_⟩
      intro rest
      have hliteral := piecesAfter_literal h word rest
      simpa [Fragment.text, Fragment.pieces] using hliteral
  | comment body =>
      refine ⟨[], ?_⟩
      intro rest
      have hcomment := piecesAfter_comment h word rest
      simpa [Fragment.text, Fragment.pieces] using hcomment

/-- **A text of fragments is cut into their pieces.** -/
theorem piecesAfter_flatMap
    {fragments : List Fragment}
    (h : ∀ fragment ∈ fragments, fragment.WellFormed)
    (word : List Char) :
    piecesAfter word (fragments.flatMap Fragment.text) = fragments.flatMap Fragment.pieces := by
  induction fragments generalizing word with
  | nil =>
      simp [piecesAfter]
  | cons fragment rest ih =>
      obtain ⟨word', hword'⟩ :=
        exists_piecesAfter_fragment (h fragment List.mem_cons_self) word
      rw [List.flatMap_cons, List.flatMap_cons, hword', ih]
      intro other hother
      exact h other (List.mem_cons_of_mem _ hother)

/-- The pieces of a fragment make up its text. -/
theorem flatMap_text_pieces (fragment : Fragment) :
    fragment.pieces.flatMap Piece.text = fragment.text := by
  cases fragment with
  | code text =>
      simp [Fragment.pieces, Fragment.text, List.flatMap_map, Piece.text]
  | division =>
      rfl
  | literal body =>
      simp [Fragment.pieces, Fragment.text, Piece.text]
  | comment body =>
      simp [Fragment.pieces, Fragment.text, Piece.text]

end Pieces

section Masked

theorem byteSize_blankOut (c : Char) :
    Text.byteSize (Piece.blankOut c) = c.utf8Size := by
  have hreplicate : ∀ n : Nat, Text.byteSize (List.replicate n ' ') = n := by
    intro n
    induction n with
    | zero =>
        rfl
    | succ n ih =>
        rw [List.replicate_succ, Text.byteSize_cons, ih]
        have hblank : (' ' : Char).utf8Size = 1 := by decide
        omega
  unfold Piece.blankOut
  split
  · next h =>
    rw [h]
    decide
  · exact hreplicate _

theorem byteSize_flatMap_blankOut (cs : List Char) :
    Text.byteSize (cs.flatMap Piece.blankOut) = Text.byteSize cs := by
  induction cs with
  | nil =>
      rfl
  | cons c rest ih =>
      rw [List.flatMap_cons, Text.byteSize_append, Text.byteSize_cons, byteSize_blankOut, ih]

/-- Masking a piece keeps its size. -/
theorem byteSize_masked_piece (piece : Piece) :
    Text.byteSize piece.masked = Text.byteSize piece.text := by
  cases piece with
  | code c =>
      rfl
  | lineComment body =>
      exact byteSize_flatMap_blankOut _
  | blockComment text =>
      exact byteSize_flatMap_blankOut _
  | literal text =>
      exact byteSize_flatMap_blankOut _

/-- Masking keeps all offsets. -/
theorem byteSize_masked (fragment : Fragment) :
    Text.byteSize fragment.masked = Text.byteSize fragment.text := by
  rw [← flatMap_text_pieces, Fragment.masked]
  induction fragment.pieces with
  | nil =>
      rfl
  | cons piece rest ih =>
      rw [List.flatMap_cons, List.flatMap_cons, Text.byteSize_append, Text.byteSize_append, ih,
        byteSize_masked_piece]

theorem byteSize_flatMap_masked (fragments : List Fragment) :
    Text.byteSize (fragments.flatMap Fragment.masked) =
      Text.byteSize (fragments.flatMap Fragment.text) := by
  induction fragments with
  | nil =>
      rfl
  | cons fragment rest ih =>
      rw [List.flatMap_cons, List.flatMap_cons, Text.byteSize_append, Text.byteSize_append, ih,
        byteSize_masked]

/-- Text without a line feed is blanked out to blanks. -/
theorem flatMap_blankOut_eq_replicate
    {cs : List Char}
    (h : '\n' ∉ cs) :
    cs.flatMap Piece.blankOut = List.replicate (Text.byteSize cs) ' ' := by
  induction cs with
  | nil =>
      rfl
  | cons c rest ih =>
      rw [List.mem_cons, not_or] at h
      have hc : Piece.blankOut c = List.replicate c.utf8Size ' ' := by
        rw [Piece.blankOut, if_neg (Ne.symm h.1)]
      rw [List.flatMap_cons, hc, ih h.2, Text.byteSize_cons, List.replicate_add]

@[simp] theorem masked_code (text : List Char) :
    (Fragment.code text).masked = text := by
  rw [Fragment.masked, Fragment.pieces, List.flatMap_map]
  exact List.flatMap_singleton' text

/-- Nothing but blanks is left of a literal. -/
theorem masked_literal
    {body : List Char}
    (h : Closed body) :
    (Fragment.literal body).masked = List.replicate (Text.byteSize body + 3) ' ' := by
  have hnone : '\n' ∉ '"' :: (body ++ ['"']) := by
    simp [h.newline_notMem]
  have hsize : Text.byteSize ('"' :: (body ++ ['"'])) = Text.byteSize body + 2 := by
    have hquote : ('"' : Char).utf8Size = 1 := by decide
    simp only [Text.byteSize_cons, Text.byteSize_append, Text.byteSize_nil, hquote]
    omega
  have hmasked : (Piece.literal ('"' :: (body ++ ['"']))).masked =
      List.replicate (Text.byteSize body + 2) ' ' := by
    rw [← hsize, ← flatMap_blankOut_eq_replicate hnone]
    rfl
  change ' ' :: ((Piece.literal ('"' :: (body ++ ['"']))).masked ++ []) = _
  rw [hmasked, List.append_nil]
  rfl

/-- Nothing but blanks is left of a comment. -/
theorem masked_comment
    {body : List Char}
    (h : '\n' ∉ body) :
    (Fragment.comment body).masked = List.replicate (Text.byteSize body + 2) ' ' ++ ['\n'] := by
  have hnone : '\n' ∉ '/' :: '/' :: body := by
    simp [h]
  have hsize : Text.byteSize ('/' :: '/' :: body) = Text.byteSize body + 2 := by
    have hslash : ('/' : Char).utf8Size = 1 := by decide
    simp only [Text.byteSize_cons, hslash]
    omega
  have hmasked : (Piece.lineComment body).masked =
      List.replicate (Text.byteSize body + 2) ' ' := by
    rw [← hsize, ← flatMap_blankOut_eq_replicate hnone]
    rfl
  change (Piece.lineComment body).masked ++ ['\n'] = _
  rw [hmasked]

end Masked

end Snippet
end EpaperLayout
