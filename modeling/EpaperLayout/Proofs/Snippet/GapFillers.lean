import EpaperLayout.Proofs.Snippet.LexicalElements
import EpaperLayout.Proofs.Snippet.UsableDispatch
import EpaperLayout.Proofs.Snippet.WidenedCode

/-!
# Text that fills a gap of a routine

People add blanks and comments to a routine.  A *filler* is such a text: blanks, a
block comment that ends, or a line comment with its line feed.  It is *idle* if it
is only that, so a block comment does not end early and a line comment is no
marker.

Put in behind a blank of the code, an idle filler leaves all other pieces as they
are: those before it do not look beyond the blank, and those behind it begin anew.
So the code only gets wider, and the markers move along.

**Results.**
* `FilledIn.pieces_eq`: the pieces of the filler come between the pieces that were
  there.
* `FilledIn.widenedRoutine`: the code is the same but for blanks, and no marker is
  added or lost.
-/

namespace EpaperLayout
namespace Snippet

/-- A text to be put between the tokens of a routine. -/
inductive Filler where
  | blanks (text : List Char)
  /-- A block comment with the text between its opening and its end. -/
  | blockComment (body : List Char)
  /-- A line comment with the text after its slashes, and the line feed behind it. -/
  | lineComment (body : List Char)
deriving DecidableEq, Repr

namespace Filler

/-- The text of a filler. -/
def text : Filler → List Char
  | .blanks text => text
  | .blockComment body => '/' :: '*' :: (body ++ ['*', '/'])
  | .lineComment body => '/' :: '/' :: (body ++ ['\n'])

/-- The pieces of a filler. -/
def pieces : Filler → List Piece
  | .blanks text => text.map Piece.code
  | .blockComment body => [.blockComment ('/' :: '*' :: (body ++ ['*', '/']))]
  | .lineComment body => [.lineComment body, .code '\n']

/-- The filler means nothing: blanks are blank, a block comment ends at its end only, and a line
comment is on one line and no marker. -/
def Idle : Filler → Prop
  | .blanks text => ∀ c ∈ text, isPlainBlank c = true
  | .blockComment body => ¬ ['*', '/'] <:+: body
  | .lineComment body => '\n' ∉ body ∧ Marker.ofComment body = none

end Filler

/-- The text `edited` is `text` with the filler put in directly behind a blank that stands outside
comments and literals. -/
def FilledIn (filler : Filler) (text edited : List Char) : Prop :=
  ∃ (first : List Piece) (blank : Char) (second : List Piece),
    pieces text = first ++ .code blank :: second ∧
      isPlainBlank blank = true ∧
      edited = (first ++ [Piece.code blank]).flatMap Piece.text ++ filler.text ++
        second.flatMap Piece.text

section Pieces

/-- An idle filler is cut into its pieces, and what follows it begins anew. -/
theorem Filler.Idle.piecesAfter_text
    {filler : Filler}
    (h : filler.Idle)
    (rest : List Char) :
    piecesAfter [] (filler.text ++ rest) = filler.pieces ++ piecesAfter [] rest := by
  cases filler with
  | blanks text =>
      have hblanks : ∀ c ∈ text, isPlainBlank c = true := h
      change piecesAfter [] (text ++ rest) = text.map Piece.code ++ piecesAfter [] rest
      clear h
      induction text with
      | nil =>
          rfl
      | cons c text ih =>
          have hc := hblanks c List.mem_cons_self
          rw [List.cons_append, piecesAfter, nextPiece_plainBlank hc]
          simp only [wordAfter_plainBlank hc]
          rw [ih fun d hd => hblanks d (List.mem_cons_of_mem _ hd)]
          rfl
  | blockComment body =>
      have htext : Filler.text (.blockComment body) ++ rest =
          '/' :: '*' :: (body ++ '*' :: '/' :: rest) := by
        simp [Filler.text]
      rw [htext, piecesAfter, nextPiece_blockComment h]
      rfl
  | lineComment body =>
      have htext : Filler.text (.lineComment body) ++ rest =
          '/' :: '/' :: (body ++ '\n' :: rest) := by
        simp [Filler.text]
      rw [htext, piecesAfter_comment h.1]
      rfl

/-- The pieces of a filler make up its text. -/
theorem Filler.flatMap_text_pieces (filler : Filler) :
    filler.pieces.flatMap Piece.text = filler.text := by
  cases filler with
  | blanks text =>
      simp [Filler.pieces, Filler.text, List.flatMap_map, Piece.text]
  | blockComment body =>
      simp [Filler.pieces, Filler.text, Piece.text]
  | lineComment body =>
      simp [Filler.pieces, Filler.text, Piece.text]

/-- The pieces before and behind the filler are those that were there. -/
theorem pieces_filledIn
    {filler : Filler} {text : List Char} {first second : List Piece} {blank : Char}
    (hidle : filler.Idle)
    (hpieces : pieces text = first ++ .code blank :: second)
    (hblank : isPlainBlank blank = true) :
    pieces ((first ++ [Piece.code blank]).flatMap Piece.text ++ filler.text ++
        second.flatMap Piece.text) =
      first ++ .code blank :: (filler.pieces ++ second) := by
  have htext : text =
      (first ++ [Piece.code blank]).flatMap Piece.text ++ second.flatMap Piece.text := by
    have hparts := flatMap_text_piecesAfter [] text
    rw [← pieces, hpieces] at hparts
    rw [← hparts, ← List.flatMap_append, List.append_assoc, List.singleton_append]
  rw [htext, pieces] at hpieces
  obtain ⟨hsecond, hresume⟩ := piecesAfter_resume hblank hpieces
  rw [pieces, List.append_assoc, hresume, hidle.piecesAfter_text, ← hsecond]

end Pieces

section Masked

/-- What is left of a filler in the code is blank. -/
theorem Filler.Idle.isPlainBlank_masked
    {filler : Filler}
    (h : filler.Idle) :
    ∀ c ∈ filler.pieces.flatMap Piece.masked, isPlainBlank c = true := by
  have hblankOut : ∀ (cs : List Char), ∀ c ∈ cs.flatMap Piece.blankOut, isPlainBlank c = true := by
    intro cs c hc
    obtain ⟨d, -, hd⟩ := List.mem_flatMap.mp hc
    unfold Piece.blankOut at hd
    split at hd
    · rw [List.mem_singleton.mp hd]
      rfl
    · rw [(List.mem_replicate.mp hd).2]
      rfl
  cases filler with
  | blanks text =>
      intro c hc
      simp only [Filler.pieces, List.flatMap_map, Piece.masked, List.mem_flatMap,
        List.mem_singleton] at hc
      obtain ⟨d, hd, rfl⟩ := hc
      exact h c hd
  | blockComment body =>
      intro c hc
      rw [Filler.pieces, List.flatMap_singleton] at hc
      exact hblankOut _ c hc
  | lineComment body =>
      intro c hc
      rw [Filler.pieces, List.flatMap_cons, List.flatMap_singleton, List.mem_append] at hc
      rcases hc with hc | hc
      · exact hblankOut _ c hc
      · rw [List.mem_singleton.mp hc]
        rfl

theorem byteSize_flatMap_masked_pieces (pieces : List Piece) :
    Text.byteSize (pieces.flatMap Piece.masked) = Text.byteSize (pieces.flatMap Piece.text) := by
  induction pieces with
  | nil =>
      rfl
  | cons piece rest ih =>
      rw [List.flatMap_cons, List.flatMap_cons, Text.byteSize_append, Text.byteSize_append, ih,
        byteSize_masked_piece]

theorem utf8Size_of_isPlainBlank
    {c : Char}
    (h : isPlainBlank c = true) :
    c.utf8Size = 1 := by
  simp only [isPlainBlank, Bool.or_eq_true, decide_eq_true_eq] at h
  rcases h with ((((rfl | rfl) | rfl) | rfl) | rfl) | rfl <;> rfl

theorem char_mem_of_mem_locate
    {offset : Nat} {cs : List Char} {place : Located}
    (h : place ∈ locate offset cs) :
    place.char ∈ cs := by
  induction cs generalizing offset with
  | nil =>
      cases h
  | cons c rest ih =>
      rcases List.mem_cons.mp h with rfl | h
      · exact List.mem_cons_self
      · exact List.mem_cons_of_mem _ (ih h)

/-- Behind the gap all places move on. -/
theorem widened_locate_behind
    {gap offset : Nat}
    (h : gap ≤ offset)
    (size : Nat)
    (cs : List Char) :
    Widened gap size (locate offset cs) (locate (offset + size) cs) := by
  induction cs generalizing offset with
  | nil =>
      exact .nil
  | cons c rest ih =>
      have hpos := c.utf8Size_pos
      have hrest := ih (Nat.le_trans h (Nat.le_add_right offset c.utf8Size))
      have hmoved : (⟨offset + size, c⟩ : Located) = Located.moved gap size ⟨offset, c⟩ := by
        rw [Located.moved, moved_of_le h]
      rw [locate, locate, hmoved, Nat.add_right_comm]
      exact .keep (by simp only; omega) hrest

/-- A text is widened by blanks that are put in behind a blank. -/
theorem widened_locate
    {blank : Char} {filler : List Char}
    (hblank : isPlainBlank blank = true)
    (hfiller : ∀ c ∈ filler, isPlainBlank c = true)
    (offset : Nat)
    (before behind : List Char) :
    Widened (offset + Text.byteSize (before ++ [blank])) (Text.byteSize filler)
      (locate offset (before ++ blank :: behind))
      (locate offset (before ++ blank :: (filler ++ behind))) := by
  induction before generalizing offset with
  | nil =>
      have hsize := utf8Size_of_isPlainBlank hblank
      have hgap : offset + Text.byteSize ([] ++ [blank]) = offset + 1 := by
        simp [hsize]
      have hbehind := widened_locate_behind (Nat.le_refl (offset + 1)) (Text.byteSize filler)
        behind
      have hfirst : ∀ cs, locate offset (blank :: cs) =
          ⟨offset, blank⟩ :: locate (offset + 1) cs := by
        intro cs
        rw [locate, hsize]
      have hmoved : (⟨offset, blank⟩ : Located) =
          Located.moved (offset + 1) (Text.byteSize filler) ⟨offset, blank⟩ := by
        rw [Located.moved, moved_of_lt (Nat.lt_succ_self offset)]
      rw [hgap, List.nil_append, List.nil_append, hfirst, hfirst, locate_append]
      conv => arg 4; rw [hmoved]
      refine .widen rfl hblank ?_ hbehind
      intro place hplace
      obtain ⟨hlow, hhigh⟩ := bounds_of_mem_locate hplace
      exact ⟨hfiller _ (char_mem_of_mem_locate hplace), hlow, hhigh⟩
  | cons c before ih =>
      have hpos := c.utf8Size_pos
      have hrest := ih (offset + c.utf8Size)
      rw [Nat.add_assoc, ← Text.byteSize_cons, ← List.cons_append] at hrest
      have hfar : offset + c.utf8Size < offset + Text.byteSize (c :: before ++ [blank]) := by
        have := blank.utf8Size_pos
        simp only [List.cons_append, Text.byteSize_cons, Text.byteSize_append, Text.byteSize_nil]
        omega
      have hmoved : (⟨offset, c⟩ : Located) =
          Located.moved (offset + Text.byteSize (c :: before ++ [blank])) (Text.byteSize filler)
            ⟨offset, c⟩ := by
        rw [Located.moved, moved_of_lt (by simp only; omega)]
      have hfirst : ∀ cs, locate offset (c :: before ++ cs) =
          ⟨offset, c⟩ :: locate (offset + c.utf8Size) (before ++ cs) := by
        intro cs
        rw [List.cons_append, locate]
      rw [hfirst, hfirst]
      conv => arg 4; rw [hmoved]
      exact .keep (by simp only; omega) hrest

end Masked

/-- A line comment when `size` bytes have been put in at `gap`. -/
def LineComment.moved (gap size : Nat) (comment : LineComment) : LineComment :=
  { comment with offset := Snippet.moved gap size comment.offset }

section Comments

variable {gap size : Nat}

theorem map_moved_lineCommentsFrom_before
    {pieces : List Piece}
    (h : Text.byteSize (pieces.flatMap Piece.text) ≤ gap) :
    (lineCommentsFrom 0 pieces).map (LineComment.moved gap size) = lineCommentsFrom 0 pieces := by
  have hsame : ∀ comment ∈ lineCommentsFrom 0 pieces, comment.moved gap size = comment := by
    intro comment hcomment
    have hbefore := (bounds_of_mem_lineCommentsFrom hcomment).2
    rw [LineComment.moved, moved_of_lt (by omega)]
  rw [List.map_congr_left hsame, List.map_id']

theorem map_moved_lineCommentsFrom_behind
    {offset : Nat}
    (h : gap ≤ offset)
    (size : Nat)
    (pieces : List Piece) :
    lineCommentsFrom (offset + size) pieces =
      (lineCommentsFrom offset pieces).map (LineComment.moved gap size) := by
  induction pieces generalizing offset with
  | nil =>
      rfl
  | cons piece rest ih =>
      have hrest := ih (Nat.le_trans h (Nat.le_add_right offset (Text.byteSize piece.text)))
      rw [Nat.add_right_comm] at hrest
      cases piece with
      | lineComment body =>
          rw [lineCommentsFrom, lineCommentsFrom, hrest, List.map_cons, LineComment.moved,
            moved_of_le h]
      | code c =>
          exact hrest
      | blockComment text =>
          exact hrest
      | literal text =>
          exact hrest

/-- An idle filler has no marker. -/
theorem Filler.Idle.ofComment_eq_none
    {filler : Filler}
    (h : filler.Idle)
    {offset : Nat} {comment : LineComment}
    (hmem : comment ∈ lineCommentsFrom offset filler.pieces) :
    Marker.ofComment comment.body = none := by
  cases filler with
  | blanks text =>
      rw [Filler.pieces, lineCommentsFrom_map_code] at hmem
      cases hmem
  | blockComment body =>
      cases hmem
  | lineComment body =>
      rw [List.mem_singleton.mp hmem]
      exact h.2

end Comments

/-- A routine with blanks put in at `gap`: the code is wider there, and no marker is added or
lost. -/
structure WidenedRoutine (gap size : Nat) (lambda lambda' : Lambda) : Prop where
  code : Widened gap size lambda.code lambda'.code
  comments : ∃ before filler behind,
    lambda.comments = before ++ behind ∧
      lambda'.comments = before.map (LineComment.moved gap size) ++ filler ++
        behind.map (LineComment.moved gap size) ∧
      ∀ comment ∈ filler, Marker.ofComment comment.body = none

/-- **An idle filler only widens a routine.** -/
theorem FilledIn.exists_widenedRoutine
    {filler : Filler} {lambda lambda' : Lambda}
    (h : FilledIn filler lambda.text lambda'.text)
    (hidle : filler.Idle) :
    ∃ gap size, WidenedRoutine gap size lambda lambda' := by
  obtain ⟨first, blank, second, hpieces, hblank, hedited⟩ := h
  have hpieces' := pieces_filledIn hidle hpieces hblank
  rw [← hedited] at hpieces'
  refine ⟨Text.byteSize ((first ++ [Piece.code blank]).flatMap Piece.text),
    Text.byteSize filler.text, ?_, ?_⟩
  · have hcode := widened_locate hblank hidle.isPlainBlank_masked 0
      (first.flatMap Piece.masked) (second.flatMap Piece.masked)
    have hgap : Text.byteSize (first.flatMap Piece.masked ++ [blank]) =
        Text.byteSize ((first ++ [Piece.code blank]).flatMap Piece.text) := by
      rw [← byteSize_flatMap_masked_pieces, List.flatMap_append, List.flatMap_singleton]
      rfl
    rw [Nat.zero_add, hgap, byteSize_flatMap_masked_pieces, Filler.flatMap_text_pieces] at hcode
    rw [Lambda.code, Lambda.code, Lambda.masked, Lambda.masked, hpieces, hpieces']
    simpa [Piece.masked] using hcode
  · rw [← List.singleton_append, ← List.append_assoc] at hpieces hpieces'
    generalize first ++ [Piece.code blank] = start at hpieces hpieces' ⊢
    generalize hgap : Text.byteSize (start.flatMap Piece.text) = gap
    refine ⟨lineCommentsFrom 0 start, lineCommentsFrom gap filler.pieces,
      lineCommentsFrom gap second, ?_, ?_, fun comment hmem => hidle.ofComment_eq_none hmem⟩
    · rw [Lambda.comments, hpieces, lineCommentsFrom_append, Nat.zero_add, hgap]
    · rw [Lambda.comments, hpieces', lineCommentsFrom_append, lineCommentsFrom_append,
        Nat.zero_add, hgap, Filler.flatMap_text_pieces,
        map_moved_lineCommentsFrom_before (Nat.le_of_eq hgap),
        map_moved_lineCommentsFrom_behind (Nat.le_refl _) _, List.append_assoc]

/-- A branch when `size` bytes have been put in at `gap`. -/
def Branch.moved (gap size : Nat) (branch : Branch) : Branch where
  label := branch.label.moved gap size
  stop := Snippet.moved gap size branch.stop

namespace WidenedRoutine

variable {gap size : Nat} {lambda lambda' : Lambda}

theorem dispatch?_eq (h : WidenedRoutine gap size lambda lambda') :
    lambda'.dispatch? = lambda.dispatch?.map (Dispatch.moved gap size) :=
  h.code.findDispatch?_eq none

theorem matchingBrace?_eq (h : WidenedRoutine gap size lambda lambda') (opening : Nat) :
    lambda'.matchingBrace? (moved gap size opening) =
      (lambda.matchingBrace? opening).map (moved gap size) := by
  have hrest := h.code.dropWhile (Widened.agree_before opening)
  unfold Lambda.matchingBrace?
  revert hrest
  generalize (lambda.code.dropWhile fun place => decide (place.offset < opening)) = places
  generalize (lambda'.code.dropWhile
    fun place => decide (place.offset < moved gap size opening)) = places'
  intro hrest
  cases places with
  | nil =>
      cases hrest
      rfl
  | cons place rest =>
      cases hrest with
      | keep apart others =>
          simp only [Located.offset_moved, Located.char_moved, moved_inj]
          split
          · exact others.closingBrace?_eq 1
          · rfl
      | widen before isBlank added others =>
          have hne := ne_of_isPlainBlank isBlank (d := '{') (by decide)
          simp [hne]

/-- The code of a range moves along with the range. -/
theorem codeIn (h : WidenedRoutine gap size lambda lambda') (start stop : Nat) :
    Widened gap size (lambda.codeIn start stop)
      (lambda'.codeIn (moved gap size start) (moved gap size stop)) :=
  h.code.filter (Widened.agree_within start stop)

theorem depthChange_eq (h : WidenedRoutine gap size lambda lambda') (start stop : Nat) :
    lambda'.depthChange (moved gap size start) (moved gap size stop) =
      lambda.depthChange start stop :=
  (h.codeIn start stop).depthOf_eq

theorem branchLabels_eq (h : WidenedRoutine gap size lambda lambda') (start stop : Nat) :
    lambda'.branchLabels (moved gap size start) (moved gap size stop) =
      (lambda.branchLabels start stop).map (Label.moved gap size) := by
  rw [Lambda.branchLabels, Lambda.branchLabels, Lambda.labelsIn, Lambda.labelsIn,
    (h.codeIn start stop).labelsAfter_eq, List.filter_map]
  congr 1
  refine List.filter_congr ?_
  intro label _
  change decide (lambda'.depthChange (moved gap size start) (moved gap size label.start) = 0) = _
  rw [h.depthChange_eq]

/-- The markers among comments that a test keeps are those among the comments that the test keeps
when all has moved. -/
theorem markersOf_filter_eq (h : WidenedRoutine gap size lambda lambda')
    {p p' : LineComment → Bool}
    (hp : ∀ comment : LineComment, p' (comment.moved gap size) = p comment) :
    markersOf (lambda'.comments.filter p') =
      (markersOf (lambda.comments.filter p)).map (Prod.map (moved gap size) id) := by
  obtain ⟨before, filler, behind, hcomments, hcomments', hfiller⟩ := h.comments
  have happend : ∀ first second : List LineComment,
      markersOf (first ++ second) = markersOf first ++ markersOf second := by
    intro first second
    exact List.filterMap_append
  have hmoved : ∀ comments : List LineComment,
      markersOf ((comments.map (LineComment.moved gap size)).filter p') =
        (markersOf (comments.filter p)).map (Prod.map (moved gap size) id) := by
    intro comments
    have hfilter : (comments.map (LineComment.moved gap size)).filter p' =
        (comments.filter p).map (LineComment.moved gap size) := by
      rw [List.filter_map]
      congr 1
      exact List.filter_congr fun comment _ => hp comment
    rw [hfilter, markersOf, markersOf, List.filterMap_map, List.map_filterMap]
    refine List.filterMap_congr ?_
    intro comment _
    change (Marker.ofComment comment.body).map _ = ((Marker.ofComment comment.body).map _).map _
    rw [Option.map_map]
    rfl
  have hnone : markersOf (filler.filter p') = [] := by
    rw [markersOf, List.filterMap_eq_nil_iff]
    intro comment hcomment
    rw [hfiller comment (List.mem_of_mem_filter hcomment), Option.map_none]
  rw [hcomments, hcomments', List.filter_append, List.filter_append, List.filter_append, happend,
    happend, happend, hnone, List.append_nil, hmoved, hmoved, List.map_append]

theorem markersOf_commentsIn (h : WidenedRoutine gap size lambda lambda') (start stop : Nat) :
    markersOf (lambda'.commentsIn (moved gap size start) (moved gap size stop)) =
      (markersOf (lambda.commentsIn start stop)).map (Prod.map (moved gap size) id) := by
  refine h.markersOf_filter_eq ?_
  intro comment
  exact congrArg₂ and (decide_eq_decide.mpr moved_le_moved_iff)
    (decide_eq_decide.mpr moved_lt_moved_iff)

theorem markersOf_commentsOutside (h : WidenedRoutine gap size lambda lambda')
    (start stop : Nat) :
    markersOf (lambda'.commentsOutside (moved gap size start) (moved gap size stop)) =
      (markersOf (lambda.commentsOutside start stop)).map (Prod.map (moved gap size) id) := by
  refine h.markersOf_filter_eq ?_
  intro comment
  exact congrArg not (congrArg₂ and (decide_eq_decide.mpr moved_le_moved_iff)
    (decide_eq_decide.mpr moved_lt_moved_iff))

end WidenedRoutine

theorem branchesOf_moved (gap size stop : Nat) (labels : List Label) :
    branchesOf (moved gap size stop) (labels.map (Label.moved gap size)) =
      (branchesOf stop labels).map (Branch.moved gap size) := by
  fun_induction branchesOf stop labels with
  | case1 =>
      rfl
  | case2 label =>
      rfl
  | case3 label next rest ih =>
      rw [List.map_cons, List.map_cons, branchesOf, ← List.map_cons, ih]
      rfl

end Snippet
end EpaperLayout
