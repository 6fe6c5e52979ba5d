import EpaperLayout.Proofs.Snippet.CommentLines
import EpaperLayout.Proofs.Snippet.GapFillers
import EpaperLayout.Proofs.Text.Trimming
import EpaperLayout.Text.Lines

/-!
# The lines of visible places

Comments, labels and the dispatch of a routine all begin with a character that is
no blank.  Such a character is the same in the text of the routine and in its
masked text, and it stands on a line of the text whose index is the number of line
feeds before it.

**Places.**
* `VisibleAt`: a visible character begins at an offset.
* `visibleAt_of_mem_comments`, `visibleAt_of_mem_branchLabels`,
  `visibleAt_of_dispatch?_eq_some`: what of a routine begins with one.

**Lines.**
* `exists_getElem?_lines`: a character is on the line that its line feeds count.
* `VisibleAt.exists_line`: a visible place is on a line that is not blank.
* `lineOf_lt_of_mem_code`: what is visible behind a comment stands on a later line.
-/

namespace EpaperLayout
namespace Snippet

/-- A character that is no blank begins at the offset. -/
def VisibleAt (cs : List Char) (offset : Nat) : Prop :=
  ∃ first c second, cs = first ++ c :: second ∧ Text.byteSize first = offset ∧
    Text.isBlank c = false

section Places

theorem visibleAt_of_mem_locate
    {cs : List Char} {place : Located}
    (h : place ∈ locate 0 cs)
    (hvisible : Text.isBlank place.char = false) :
    VisibleAt cs place.offset := by
  obtain ⟨first, second, hsplit, hoffset⟩ := exists_append_of_mem_locate h
  exact ⟨first, place.char, second, hsplit, by rw [hoffset, Nat.zero_add], hvisible⟩

/-- A comment begins where its first character stands in any view of the pieces that keeps their
sizes. -/
theorem mem_locate_of_mem_lineCommentsFrom
    {view : Piece → List Char} {c : Char}
    (hsize : ∀ piece, Text.byteSize (view piece) = Text.byteSize piece.text)
    (hview : ∀ body, (view (.lineComment body)).head? = some c)
    {offset : Nat} {pieces : List Piece} {comment : LineComment}
    (h : comment ∈ lineCommentsFrom offset pieces) :
    { offset := comment.offset, char := c } ∈ locate offset (pieces.flatMap view) := by
  induction pieces generalizing offset with
  | nil =>
      cases h
  | cons piece rest ih =>
      have hrest : comment ∈ lineCommentsFrom (offset + Text.byteSize piece.text) rest →
          { offset := comment.offset, char := c } ∈
            locate offset ((piece :: rest).flatMap view) := by
        intro hmem
        rw [List.flatMap_cons, locate_append, hsize]
        exact List.mem_append_right _ (ih hmem)
      cases piece with
      | lineComment body =>
          rw [lineCommentsFrom, List.mem_cons] at h
          rcases h with rfl | h
          · obtain ⟨others, hothers⟩ := List.head?_eq_some_iff.mp (hview body)
            rw [List.flatMap_cons, hothers]
            exact List.mem_cons_self
          · exact hrest h
      | code d =>
          exact hrest h
      | blockComment text =>
          exact hrest h
      | literal text =>
          exact hrest h

/-- What is blanked out is blank. -/
theorem isBlank_of_mem_flatMap_blankOut
    {cs : List Char} {c : Char}
    (h : c ∈ cs.flatMap Piece.blankOut) :
    Text.isBlank c = true := by
  obtain ⟨d, -, hc⟩ := List.mem_flatMap.mp h
  rw [Piece.blankOut] at hc
  split at hc
  · rw [List.mem_singleton.mp hc]
    decide
  · rw [List.eq_of_mem_replicate hc]
    decide

/-- A visible place of the masked pieces is a piece of code. -/
theorem exists_code_of_mem_masked
    {offset : Nat} {pieces : List Piece} {place : Located}
    (h : place ∈ locate offset (pieces.flatMap Piece.masked))
    (hvisible : Text.isBlank place.char = false) :
    ∃ before after, pieces = before ++ .code place.char :: after ∧
      place.offset = offset + Text.byteSize (before.flatMap Piece.text) := by
  induction pieces generalizing offset with
  | nil =>
      cases h
  | cons piece rest ih =>
      rw [List.flatMap_cons, locate_append, byteSize_masked_piece, List.mem_append] at h
      rcases h with h | h
      · have hblank : place.char ∉ piece.text.flatMap Piece.blankOut := by
          intro hmem
          rw [isBlank_of_mem_flatMap_blankOut hmem] at hvisible
          cases hvisible
        cases piece with
        | code c =>
            obtain rfl := List.mem_singleton.mp h
            exact ⟨[], rest, rfl, rfl⟩
        | lineComment body =>
            exact absurd (char_mem_of_mem_locate h) hblank
        | blockComment text =>
            exact absurd (char_mem_of_mem_locate h) hblank
        | literal text =>
            exact absurd (char_mem_of_mem_locate h) hblank
      · obtain ⟨before, after, rfl, hoffset⟩ := ih h
        refine ⟨piece :: before, after, rfl, ?_⟩
        rw [hoffset, List.flatMap_cons, Text.byteSize_append, Nat.add_assoc]

/-- So it is a place of the pieces themselves. -/
theorem mem_locate_text_of_mem_masked
    {offset : Nat} {pieces : List Piece} {place : Located}
    (h : place ∈ locate offset (pieces.flatMap Piece.masked))
    (hvisible : Text.isBlank place.char = false) :
    place ∈ locate offset (pieces.flatMap Piece.text) := by
  obtain ⟨before, after, rfl, hoffset⟩ := exists_code_of_mem_masked h hvisible
  rw [List.flatMap_append, List.flatMap_cons, locate_append, ← hoffset]
  exact List.mem_append_right _ List.mem_cons_self

variable {lambda : Lambda}

theorem visibleAt_of_mem_code
    {place : Located}
    (h : place ∈ lambda.code)
    (hvisible : Text.isBlank place.char = false) :
    VisibleAt lambda.text place.offset := by
  have htext := mem_locate_text_of_mem_masked h hvisible
  rw [pieces, flatMap_text_piecesAfter] at htext
  exact visibleAt_of_mem_locate htext hvisible

/-- **A comment begins with a visible character.** -/
theorem visibleAt_of_mem_comments
    {comment : LineComment}
    (h : comment ∈ lambda.comments) :
    VisibleAt lambda.text comment.offset := by
  have hslash := mem_locate_of_mem_lineCommentsFrom (fun _ => rfl)
    (fun body => (rfl : (Piece.text (.lineComment body)).head? = some '/')) h
  have hvisible : Text.isBlank '/' = false := by decide
  rw [pieces, flatMap_text_piecesAfter] at hslash
  exact visibleAt_of_mem_locate hslash hvisible

end Places

section Labels

/-- A word is read from its first character on. -/
theorem char_eq_of_afterWord?
    {c : Char} {word : List Char} {place : Located} {places rest : List Located}
    (h : afterWord? (c :: word) (place :: places) = some rest) :
    place.char = c := by
  rw [afterWord?] at h
  split at h
  · assumption
  · cases h

/-- A dispatch begins with its first word. -/
theorem exists_mem_of_findDispatch?
    {previous : Option Char} {places : List Located} {dispatch : Dispatch}
    (h : findDispatch? previous places = some dispatch) :
    ∃ place ∈ places, place.offset = dispatch.start ∧ Text.isBlank place.char = false := by
  induction places generalizing previous with
  | nil =>
      cases h
  | cons place rest ih =>
      rw [findDispatch?] at h
      split at h
      · next opening hopening =>
        rw [← Option.some.inj h]
        refine ⟨place, List.mem_cons_self, rfl, ?_⟩
        split at hopening
        · obtain ⟨after, hword, -⟩ := Option.bind_eq_some_iff.mp hopening
          rw [char_eq_of_afterWord? hword]
          decide
        · cases hopening
      · obtain ⟨other, hother, hdispatch⟩ := ih h
        exact ⟨other, List.mem_cons_of_mem _ hother, hdispatch⟩

variable {lambda : Lambda}

/-- **The label of a branch begins with a visible character.** -/
theorem visibleAt_of_mem_branchLabels
    {start stop : Nat} {label : Label}
    (h : label ∈ lambda.branchLabels start stop) :
    VisibleAt lambda.text label.start := by
  obtain ⟨place, hplace, hoffset, hvisible⟩ :=
    (mem_labelsAfter_iff_standsIn.mp (List.mem_filter.mp h).1).exists_mem
  rw [← hoffset]
  exact visibleAt_of_mem_code (List.mem_filter.mp hplace).1 hvisible

/-- **So does a dispatch.** -/
theorem visibleAt_of_dispatch?_eq_some
    {dispatch : Dispatch}
    (h : lambda.dispatch? = some dispatch) :
    VisibleAt lambda.text dispatch.start := by
  obtain ⟨place, hplace, hoffset, hvisible⟩ := exists_mem_of_findDispatch? h
  rw [← hoffset]
  exact visibleAt_of_mem_code hplace hvisible

end Labels

section Lines

/-- What was read of a line belongs to the first line. -/
theorem exists_linesFrom_eq_cons
    {c : Char} {read : List Char}
    (hread : c ∈ read)
    (hreturn : c ≠ '\r')
    (cs : List Char) :
    ∃ line others, Text.linesFrom read cs = line :: others ∧ c ∈ line := by
  induction cs generalizing read with
  | nil =>
      refine ⟨read.reverse, [], ?_, List.mem_reverse.mpr hread⟩
      rw [Text.linesFrom, if_neg]
      rw [List.isEmpty_iff]
      exact List.ne_nil_of_mem hread
  | cons d rest ih =>
      rw [Text.linesFrom]
      split
      · refine ⟨Text.dropReturn read.reverse, _, rfl, ?_⟩
        have hmem := List.mem_reverse.mpr hread
        rw [Text.dropReturn]
        split
        · next hlast =>
          obtain ⟨before, hbefore⟩ := List.getLast?_eq_some_iff.mp hlast
          rw [hbefore] at hmem ⊢
          rw [List.dropLast_concat]
          simpa [hreturn] using hmem
        · exact hmem
      · exact ih (List.mem_cons_of_mem _ hread)

/-- **A character is on the line that the line feeds before it count.** -/
theorem exists_getElem?_lines
    {c : Char}
    (hfeed : c ≠ '\n')
    (hreturn : c ≠ '\r')
    (first second : List Char) :
    ∃ line, (Text.lines (first ++ c :: second))[first.count '\n']? = some line ∧ c ∈ line := by
  rw [Text.lines]
  generalize ([] : List Char) = read
  induction first generalizing read with
  | nil =>
      obtain ⟨line, others, hlines, hmem⟩ :=
        exists_linesFrom_eq_cons (List.mem_cons_self (l := read)) hreturn second
      refine ⟨line, ?_, hmem⟩
      rw [List.nil_append, Text.linesFrom, if_neg hfeed, hlines]
      rfl
  | cons d rest ih =>
      rw [List.cons_append, Text.linesFrom]
      by_cases hd : d = '\n'
      · rw [if_pos hd, hd, List.count_cons_self, List.getElem?_cons_succ]
        exact ih []
      · rw [if_neg hd, List.count_cons_of_ne hd]
        exact ih (d :: read)

/-- **A visible place is on a line that is not blank.** -/
theorem VisibleAt.exists_line
    {lambda : Lambda} {offset : Nat}
    (h : VisibleAt lambda.text offset) :
    ∃ line, (Text.lines lambda.text)[lambda.lineOf offset - lambda.firstLine]? = some line ∧
      (Text.trim line).isEmpty = false := by
  obtain ⟨first, c, second, hsplit, rfl, hvisible⟩ := h
  have hne : ∀ d : Char, Text.isBlank d = true → c ≠ d := by
    rintro d hd rfl
    rw [hd] at hvisible
    cases hvisible
  obtain ⟨line, hline, hmem⟩ := exists_getElem?_lines (hne '\n' (by decide))
    (hne '\r' (by decide)) first second
  refine ⟨line, ?_, Text.isEmpty_trim_of_mem hmem hvisible⟩
  rw [lineOf_byteSize hsplit, Nat.add_sub_cancel_left, hsplit]
  exact hline

/-- **What is visible behind a comment stands on a later line.** -/
theorem lineOf_lt_of_mem_code
    {lambda : Lambda} {comment : LineComment} {place : Located}
    (hcomment : comment ∈ lambda.comments)
    (hplace : place ∈ lambda.code)
    (hvisible : Text.isBlank place.char = false)
    (hlt : comment.offset < place.offset) :
    lambda.lineOf comment.offset < lambda.lineOf place.offset := by
  obtain ⟨before, after, hpieces, hoffset⟩ := exists_append_of_mem_lineCommentsFrom hcomment
  have htext : lambda.text =
      (before ++ .lineComment comment.body :: after).flatMap Piece.text := by
    rw [← hpieces, pieces, flatMap_text_piecesAfter]
  rw [Lambda.code, Lambda.masked, hpieces, List.flatMap_append, List.flatMap_cons, locate_append,
    locate_append, List.mem_append, List.mem_append, byteSize_masked_piece,
    byteSize_flatMap_masked_pieces] at hplace
  rcases hplace with hplace | hplace | hplace
  · -- ahead of the comment
    have hbound := (bounds_of_mem_locate hplace).2
    rw [byteSize_flatMap_masked_pieces] at hbound
    omega
  · -- in the comment, which is blank
    exfalso
    have hblank : Text.isBlank place.char = true :=
      isBlank_of_mem_flatMap_blankOut (char_mem_of_mem_locate hplace)
    rw [hvisible] at hblank
    cases hblank
  · -- behind the line feed that ends the comment
    rcases piecesAfter_behind_lineComment hpieces with rfl | ⟨rest, rfl⟩
    · cases hplace
    · rw [List.flatMap_cons, Piece.masked, List.singleton_append, locate, List.mem_cons] at hplace
      rcases hplace with rfl | hplace
      · cases hvisible
      · have hbehind := (bounds_of_mem_locate hplace).1
        refine lineOf_lt_of_newline
          ⟨0 + Text.byteSize (before.flatMap Piece.text) +
            Text.byteSize (Piece.text (.lineComment comment.body)), '\n'⟩ ?_ rfl ?_ ?_
        · rw [htext, List.flatMap_append, List.flatMap_cons, List.flatMap_cons, locate_append,
            locate_append]
          exact List.mem_append_right _ (List.mem_append_right _ List.mem_cons_self)
        · rw [hoffset]
          exact Nat.le_add_right _ _
        · have hfeed : 0 < ('\n' : Char).utf8Size := by decide
          exact Nat.lt_of_lt_of_le (Nat.lt_add_of_pos_right hfeed) hbehind

end Lines

end Snippet
end EpaperLayout
