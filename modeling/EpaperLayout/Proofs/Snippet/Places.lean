import EpaperLayout.Snippet.Lambda
import Mathlib.Tactic

/-!
# Offsets and lines of a routine

Every place of a routine has an offset, and offsets grow along the text.  This
module collects what the order of offsets means for the places of the code, for
the line comments and for the numbers of lines.

**Results.**
* `pairwise_offset_code`, `pairwise_offset_codeIn`: the places of the code are in
  the order of their offsets.
* `pairwise_lineOf_comments`: no two line comments stand on one line, since a line
  comment reaches to the end of its line.
-/

namespace EpaperLayout
namespace Snippet

section Locate

/-- The second of two texts begins where the first ends. -/
theorem locate_append (offset : Nat) (first second : List Char) :
    locate offset (first ++ second) =
      locate offset first ++ locate (offset + Text.byteSize first) second := by
  induction first generalizing offset with
  | nil =>
      rfl
  | cons c rest ih =>
      rw [List.cons_append, locate, locate, ih, Text.byteSize_cons, Nat.add_assoc]
      rfl

theorem bounds_of_mem_locate
    {offset : Nat} {cs : List Char} {place : Located}
    (h : place ∈ locate offset cs) :
    offset ≤ place.offset ∧ place.offset < offset + Text.byteSize cs := by
  induction cs generalizing offset with
  | nil =>
      simp [locate] at h
  | cons c rest ih =>
      have hpos := c.utf8Size_pos
      rw [locate, List.mem_cons] at h
      rw [Text.byteSize_cons]
      rcases h with rfl | h
      · exact ⟨Nat.le_refl _, by simp only; omega⟩
      · obtain ⟨hlow, hhigh⟩ := ih h
        exact ⟨by omega, by omega⟩

/-- The text is split at each of its places. -/
theorem exists_append_of_mem_locate
    {offset : Nat} {cs : List Char} {place : Located}
    (h : place ∈ locate offset cs) :
    ∃ first second, cs = first ++ place.char :: second ∧
      place.offset = offset + Text.byteSize first := by
  induction cs generalizing offset with
  | nil =>
      cases h
  | cons c rest ih =>
      rcases List.mem_cons.mp h with rfl | h
      · exact ⟨[], rest, rfl, rfl⟩
      · obtain ⟨first, second, hsplit, hoffset⟩ := ih h
        refine ⟨c :: first, second, congrArg (List.cons c) hsplit, ?_⟩
        rw [hoffset, Text.byteSize_cons, Nat.add_assoc]

/-- The offsets grow along a text. -/
theorem pairwise_offset_locate (offset : Nat) (cs : List Char) :
    (locate offset cs).Pairwise fun a b => a.offset < b.offset := by
  induction cs generalizing offset with
  | nil =>
      exact List.Pairwise.nil
  | cons c rest ih =>
      rw [locate, List.pairwise_cons]
      refine ⟨?_, ih _⟩
      intro place hplace
      have hpos := c.utf8Size_pos
      have hlow := (bounds_of_mem_locate hplace).1
      simp only
      omega

theorem pairwise_offset_code (lambda : Lambda) :
    lambda.code.Pairwise fun a b => a.offset < b.offset :=
  pairwise_offset_locate 0 _

theorem pairwise_offset_codeIn (lambda : Lambda) (start stop : Nat) :
    (lambda.codeIn start stop).Pairwise fun a b => a.offset < b.offset :=
  (pairwise_offset_code lambda).filter _

theorem bounds_of_mem_codeIn
    {lambda : Lambda} {start stop : Nat} {place : Located}
    (h : place ∈ lambda.codeIn start stop) :
    start ≤ place.offset ∧ place.offset < stop := by
  rw [Lambda.codeIn, List.mem_filter] at h
  simpa using h.2

end Locate

section Comments

/-- The comments among further pieces begin where the first pieces end. -/
theorem lineCommentsFrom_append (offset : Nat) (first second : List Piece) :
    lineCommentsFrom offset (first ++ second) =
      lineCommentsFrom offset first ++
        lineCommentsFrom (offset + Text.byteSize (first.flatMap Piece.text)) second := by
  induction first generalizing offset with
  | nil =>
      rfl
  | cons piece rest ih =>
      cases piece <;> simp [lineCommentsFrom, ih, Nat.add_assoc]

theorem bounds_of_mem_lineCommentsFrom
    {offset : Nat} {pieces : List Piece} {comment : LineComment}
    (h : comment ∈ lineCommentsFrom offset pieces) :
    offset ≤ comment.offset ∧
      comment.offset < offset + Text.byteSize (pieces.flatMap Piece.text) := by
  induction pieces generalizing offset with
  | nil =>
      simp [lineCommentsFrom] at h
  | cons piece rest ih =>
      rw [List.flatMap_cons, Text.byteSize_append]
      have hrest :
          comment ∈ lineCommentsFrom (offset + Text.byteSize piece.text) rest →
            offset ≤ comment.offset ∧ comment.offset <
              offset + (Text.byteSize piece.text +
                Text.byteSize (rest.flatMap Piece.text)) := by
        intro hmem
        obtain ⟨hlow, hhigh⟩ := ih hmem
        exact ⟨by omega, by omega⟩
      cases piece with
      | lineComment body =>
          rw [lineCommentsFrom, List.mem_cons] at h
          rcases h with rfl | h
          · have hslash : 0 < ('/' : Char).utf8Size := by decide
            simp only [Piece.text, Text.byteSize_cons]
            omega
          · exact hrest h
      | code c =>
          exact hrest h
      | blockComment text =>
          exact hrest h
      | literal text =>
          exact hrest h

/-- The pieces around a comment. -/
theorem exists_append_of_mem_lineCommentsFrom
    {offset : Nat} {pieces : List Piece} {comment : LineComment}
    (h : comment ∈ lineCommentsFrom offset pieces) :
    ∃ before after, pieces = before ++ .lineComment comment.body :: after ∧
      comment.offset = offset + Text.byteSize (before.flatMap Piece.text) := by
  induction pieces generalizing offset with
  | nil =>
      cases h
  | cons piece rest ih =>
      have hrest (hmem : comment ∈
          lineCommentsFrom (offset + Text.byteSize piece.text) rest) :
          ∃ before after, piece :: rest = before ++ .lineComment comment.body :: after ∧
            comment.offset = offset + Text.byteSize (before.flatMap Piece.text) := by
        obtain ⟨before, after, rfl, hoffset⟩ := ih hmem
        refine ⟨piece :: before, after, rfl, ?_⟩
        rw [hoffset, List.flatMap_cons, Text.byteSize_append, Nat.add_assoc]
      cases piece with
      | lineComment body =>
          rw [lineCommentsFrom, List.mem_cons] at h
          rcases h with rfl | h
          · exact ⟨[], rest, rfl, rfl⟩
          · exact hrest h
      | code c => exact hrest h
      | blockComment text => exact hrest h
      | literal text => exact hrest h

/-- What follows a line comment is the end of the text or of the line. -/
theorem following_lineComment
    {word : List Char} {c : Char} {rest body following : List Char}
    (h : nextPiece word c rest = (.lineComment body, following)) :
    following = [] ∨ ∃ after, following = '\n' :: after := by
  have hline : ∀ cs : List Char,
      (splitLine cs).2 = [] ∨ ∃ after, (splitLine cs).2 = '\n' :: after := by
    intro cs
    cases hdrop : cs.dropWhile (· ≠ '\n') with
    | nil => exact Or.inl hdrop
    | cons d after =>
        refine Or.inr ⟨after, ?_⟩
        have hhead := List.head?_dropWhile_not (· ≠ '\n') cs
        rw [hdrop] at hhead
        have hd : d = '\n' := by
          simpa using hhead
        rw [splitLine, hdrop, hd]
  unfold nextPiece at h
  split at h
  · rw [Prod.mk.injEq] at h
    rw [← h.2]
    exact hline _
  · exfalso
    split at h
    · simp at h
    · split at h
      · simp at h
      · split at h
        · simp at h
        · split at h <;> simp at h

theorem nextPiece_newline (word rest : List Char) :
    nextPiece word '\n' rest = (.code '\n', rest) := by
  simp [nextPiece]

/-- Nothing or a line feed follows a line comment. -/
theorem piecesAfter_behind_lineComment
    {word cs body : List Char} {before after : List Piece}
    (h : piecesAfter word cs = before ++ .lineComment body :: after) :
    after = [] ∨ ∃ rest, after = .code '\n' :: rest := by
  fun_induction piecesAfter word cs generalizing before with
  | case1 =>
      exact absurd h (by simp)
  | case2 word c rest ih =>
      cases before with
      | cons piece before =>
          exact ih (List.cons.inj h).2
      | nil =>
          obtain ⟨hpiece, rfl⟩ := List.cons.inj h
          have hnext : nextPiece word c rest = (.lineComment body, (nextPiece word c rest).2) :=
            Prod.ext hpiece rfl
          rcases following_lineComment hnext with hnil | ⟨others, hfeed⟩
          · rw [hnil, piecesAfter]
            exact Or.inl rfl
          · rw [hfeed, piecesAfter, nextPiece_newline]
            exact Or.inr ⟨_, rfl⟩

end Comments

section LineNumbers

/-- Line numbers grow along the text. -/
theorem lineOf_mono
    (lambda : Lambda)
    {x y : Nat}
    (h : x ≤ y) :
    lambda.lineOf x ≤ lambda.lineOf y := by
  refine Nat.add_le_add_left (List.countP_mono_left ?_) _
  intro place _ hplace
  simp only [Bool.and_eq_true, decide_eq_true_eq] at hplace ⊢
  exact ⟨hplace.1, Nat.lt_of_lt_of_le hplace.2 h⟩

/-- A line feed between two offsets puts them on different lines. -/
theorem lineOf_lt_of_newline
    {lambda : Lambda} {x y : Nat}
    (place : Located)
    (hplace : place ∈ locate 0 lambda.text)
    (hnewline : place.char = '\n')
    (hx : x ≤ place.offset)
    (hy : place.offset < y) :
    lambda.lineOf x < lambda.lineOf y := by
  obtain ⟨before, after, hsplit⟩ := List.append_of_mem hplace
  have hmono : ∀ places : List Located,
      places.countP (fun p => p.char = '\n' && p.offset < x) ≤
        places.countP (fun p => p.char = '\n' && p.offset < y) := by
    intro places
    refine List.countP_mono_left ?_
    intro p _ hp
    simp only [Bool.and_eq_true, decide_eq_true_eq] at hp ⊢
    exact ⟨hp.1, by omega⟩
  have hbefore := hmono before
  have hafter := hmono after
  unfold Lambda.lineOf
  rw [hsplit, List.countP_append, List.countP_append, List.countP_cons, List.countP_cons]
  have hxnot : ¬place.offset < x := by
    omega
  simp only [hnewline, hxnot, hy, decide_true, decide_false, Bool.and_true, Bool.and_false,
    Bool.false_eq_true, if_true, if_false]
  omega

/-- The comments after a place of the text stand on increasing lines. -/
theorem pairwise_lineOf_lineCommentsFrom
    {lambda : Lambda}
    (before word : List Char)
    {cs : List Char}
    (htext : lambda.text = before ++ cs) :
    (lineCommentsFrom (Text.byteSize before) (piecesAfter word cs)).Pairwise
      fun a b => lambda.lineOf a.offset < lambda.lineOf b.offset := by
  induction hlength : cs.length using Nat.strong_induction_on generalizing word before cs with
  | _ length ih =>
    cases cs with
    | nil =>
        simp [piecesAfter, lineCommentsFrom]
    | cons c rest =>
        obtain ⟨⟨piece, following⟩, hnext⟩ :
            ∃ next, nextPiece word c rest = next := ⟨_, rfl⟩
        have hparts := nextPiece_append word c rest
        have hshorter := nextPiece_length word c rest
        rw [hnext] at hparts hshorter
        simp only [hlength] at hparts hshorter
        have htext' : lambda.text = (before ++ piece.text) ++ following := by
          rw [htext, List.append_assoc, hparts]
        have hrest := ih following.length (by omega) _ (wordAfter word piece) htext' rfl
        rw [Text.byteSize_append] at hrest
        rw [piecesAfter, hnext]
        cases piece with
        | code d =>
            exact hrest
        | blockComment text =>
            exact hrest
        | literal text =>
            exact hrest
        | lineComment body =>
            rw [lineCommentsFrom, List.pairwise_cons]
            refine ⟨?_, hrest⟩
            intro comment hcomment
            rcases following_lineComment hnext with rfl | ⟨after, rfl⟩
            · simp [piecesAfter, lineCommentsFrom] at hcomment
            · -- the line feed that ends the comment lies between the two
              rw [piecesAfter, nextPiece_newline, lineCommentsFrom] at hcomment
              · have hlow := (bounds_of_mem_lineCommentsFrom hcomment).1
                refine lineOf_lt_of_newline
                  ⟨Text.byteSize (before ++ Piece.text (.lineComment body)), '\n'⟩ ?_ rfl ?_ ?_
                · rw [htext', locate_append, Nat.zero_add]
                  exact List.mem_append_right _ List.mem_cons_self
                · simp
                · have hfeed : Text.byteSize (Piece.code '\n').text = 1 := by decide
                  simp only [hfeed] at hlow
                  simp only [Text.byteSize_append]
                  omega
              · intro other hother
                cases hother

/-- **No two line comments stand on one line.** -/
theorem pairwise_lineOf_comments (lambda : Lambda) :
    lambda.comments.Pairwise
      fun a b => lambda.lineOf a.offset < lambda.lineOf b.offset :=
  pairwise_lineOf_lineCommentsFrom [] [] rfl

end LineNumbers

end Snippet
end EpaperLayout
