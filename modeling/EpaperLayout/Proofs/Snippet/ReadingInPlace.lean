import EpaperLayout.Proofs.Snippet.OffsetReader

/-!
# Reading in place comes to the pieces

The reader by offsets runs through the pieces of a text: what it shows of a text is the
masked text of its pieces, and the line comments that it takes down are theirs.

**Words.**  The reader looks back in the text for the word before a quote, while the pieces
are cut with a word that begins anew behind every comment and literal.  The two differ
only behind a piece that ends within a word, such as a literal without its quote; then a
line feed or nothing follows, and no quote.

**Invariant.**  Before every round that begins between two characters the copy consists of
the masked part and of the rest of the text as it is.  A character of code takes as many
rounds as it has bytes, every other piece one.

**Results.**
* `piecesAfter_cons`: pieces are found by the last word of the text before them.
* `Scan.round?_cases`: what a round does.
* `Scan.finish?_behind`, `Scan.ofText?_eq`: what all rounds come to.
-/

namespace EpaperLayout
namespace Snippet

section Words

/-- No word goes over the end of the text: a character apart follows, or one that belongs to no word
comes last. -/
def EndsApart (text following : List Char) : Prop :=
  IsApart following.head? ∨
    ∃ init last, text = init ++ [last] ∧ Text.isIdentifierChar last = false

theorem EndsApart.append
    {text following : List Char}
    (h : EndsApart text following)
    (front : List Char) :
    EndsApart (front ++ text) following := by
  rcases h with hapart | ⟨init, last, rfl, hlast⟩
  · exact Or.inl hapart
  · exact Or.inr ⟨front ++ init, last, by rw [List.append_assoc], hlast⟩

theorem endsApart_splitLine (cs : List Char) :
    EndsApart (splitLine cs).1 (splitLine cs).2 := by
  refine Or.inl (isApart_of_lineEnd ?_)
  rw [splitLine]
  cases hdrop : cs.dropWhile (· ≠ '\n') with
  | nil => exact Or.inl rfl
  | cons c rest =>
      have hnot := List.head?_dropWhile_not (· ≠ '\n') cs
      rw [hdrop] at hnot
      exact Or.inr (by simpa using hnot)

theorem endsApart_splitAfter
    {last : Char}
    (hlast : Text.isIdentifierChar last = false)
    (init cs : List Char) :
    EndsApart (splitAfter (init ++ [last]) cs).1 (splitAfter (init ++ [last]) cs).2 := by
  induction cs with
  | nil =>
      exact Or.inl trivial
  | cons c rest ih =>
      rw [splitAfter]
      split
      · next hprefix =>
        have htake : (c :: rest).take (init ++ [last]).length = init ++ [last] :=
          (List.prefix_iff_eq_take.mp (List.isPrefixOf_iff_prefix.mp hprefix)).symm
        exact Or.inr ⟨init, last, htake, hlast⟩
      · exact ih.append [c]

theorem endsApart_splitQuoted
    {quote : Char}
    (hquote : Text.isIdentifierChar quote = false)
    (cs : List Char) :
    EndsApart (splitQuoted quote cs).1 (splitQuoted quote cs).2 := by
  fun_induction splitQuoted quote cs with
  | case1 => exact Or.inl trivial
  | case2 rest => exact Or.inr ⟨[], quote, rfl, hquote⟩
  | case3 rest hne => exact Or.inl (isApart_of_lineEnd (Or.inr rfl))
  | case4 hne hfeed => exact Or.inl trivial
  | case5 c rest text following hsplit hne hfeed ih =>
      rw [hsplit] at ih
      exact ih.append ['\\', c]
  | case6 c rest hne hfeed hslash text following hsplit ih =>
      rw [hsplit] at ih
      exact ih.append [c]

theorem endsApart_splitRaw (cs : List Char) :
    EndsApart (splitRaw cs).1 (splitRaw cs).2 := by
  rw [splitRaw]
  split
  · exact endsApart_splitLine cs
  · next delimiter _ =>
    exact (endsApart_splitAfter (by decide) (')' :: delimiter) _).append _

/-- No word goes over the end of a piece that is hidden. -/
theorem endsApart_nextPiece
    (word : List Char) (c : Char) (rest : List Char)
    (h : ∀ d, (nextPiece word c rest).1 ≠ .code d) :
    EndsApart (nextPiece word c rest).1.text (nextPiece word c rest).2 := by
  unfold nextPiece at h ⊢
  split at h
  · next hline =>
    rw [if_pos hline]
    exact (endsApart_splitLine rest.tail).append ['/', '/']
  · next hline =>
    rw [if_neg hline]
    split at h
    · next hblock =>
      rw [if_pos hblock]
      exact (endsApart_splitAfter (by decide) ['*'] rest.tail).append ['/', '*']
    · next hblock =>
      rw [if_neg hblock]
      split at h
      · next hraw =>
        rw [if_pos hraw]
        exact (endsApart_splitRaw rest).append [c]
      · next hraw =>
        rw [if_neg hraw]
        split at h
        · exact absurd rfl (h c)
        · next hdigits =>
          rw [if_neg hdigits]
          split at h
          · next hquote =>
            have hword : Text.isIdentifierChar c = false := by
              rw [Bool.or_eq_true, decide_eq_true_eq, decide_eq_true_eq] at hquote
              rcases hquote with rfl | rfl <;> decide
            rw [if_pos hquote]
            exact (endsApart_splitQuoted hword rest).append [c]
          · exact absurd rfl (h c)

/-- **The next piece of a text** is found by its last word, and so are the pieces behind it. -/
theorem piecesAfter_cons
    {before rest following : List Char} {c : Char} {piece : Piece}
    (h : nextPiece (lastWord before).reverse c rest = (piece, following)) :
    piecesAfter (lastWord before).reverse (c :: rest) =
      piece :: piecesAfter (lastWord (before ++ piece.text)).reverse following := by
  rw [piecesAfter, h]
  by_cases hcode : ∃ d, piece = .code d
  · obtain ⟨d, rfl⟩ := hcode
    have hword : wordAfter (lastWord before).reverse (.code d) =
        (lastWord (before ++ [d])).reverse := by
      rw [wordAfter, lastWord_concat]
      split
      · rw [List.reverse_append]
        rfl
      · rfl
    rw [hword]
    rfl
  · have hnot (d : Char) : piece ≠ .code d := fun heq => hcode ⟨d, heq⟩
    have hends := endsApart_nextPiece (lastWord before).reverse c rest
    rw [h] at hends
    have hword : wordAfter (lastWord before).reverse piece = [] := by
      cases piece with
      | code d => exact absurd rfl (hnot d)
      | _ => rfl
    rw [hword]
    -- behind a hidden piece either no quote follows or no word is left
    rcases hends hnot with hapart | ⟨init, last, htext, hlast⟩
    · rw [piecesAfter_apart hapart (lastWord _).reverse]
    · rw [lastWord_append_of_concat htext hlast before]
      rfl

end Words

namespace Scan

section Rounds

/-- The reader behind what it shows, with a text that is still to be read. -/
def behind (shown : List UInt8) (comments : List LineComment) (rest : List Char) : Scan where
  masked := shown ++ Text.encode rest
  comments := comments
  offset := shown.length

variable {before : List Char} {shown : List UInt8} {comments : List LineComment}

theorem note_behind (rest : List Char) (comment : LineComment) :
    (behind shown comments rest).note comment = behind shown (comments ++ [comment]) rest :=
  rfl

theorem offset_behind
    (hshown : shown.length = Text.byteSize before)
    (rest : List Char) :
    (behind shown comments rest).offset = Text.byteSize before :=
  hshown

/-- A piece that is hidden is blanked out. -/
theorem blankTo?_behind
    {text following : List Char}
    (piece : Piece)
    (hhidden : piece.masked = piece.text.flatMap Piece.blankOut)
    (hparts : piece.text ++ following = text)
    (hshown : shown.length = Text.byteSize before)
    (comments : List LineComment) :
    (behind shown comments text).blankTo? (Text.byteSize before + Text.byteSize piece.text) =
      some (behind (shown ++ Text.encode piece.masked) comments following) := by
  have hmasked : Text.encode piece.masked = (Text.encode piece.text).map blankByte := by
    rw [hhidden, encode_flatMap_blankOut]
  have hslice := Text.byteSlice?_append shown (Text.encode piece.text) (Text.encode following)
  rw [blankTo?, behind, ← hshown, ← Text.length_encode, ← hparts, Text.encode_append]
  simp only [bind, Option.bind, pure, hslice, List.take_left, List.drop_length_add_append,
    List.drop_left]
  rw [behind, hmasked, List.length_append, List.length_map]

/-- The reader sees the two characters that open a comment. -/
theorem opens_iff
    {d : Char}
    (hd : d.toNat < 128)
    (before : List Char) (c : Char) (rest : List Char) :
    (Text.leadByte c = '/'.toUInt8 ∧
        (Text.encode (before ++ c :: rest))[Text.byteSize before + 1]? = some d.toUInt8) ↔
      c = '/' ∧ rest.head? = some d := by
  rw [Text.leadByte_eq_iff (by decide)]
  refine and_congr_right ?_
  rintro rfl
  rw [Text.getElem?_encode (before ++ ['/']) rest (by simp) (by rw [Text.byteSize_append]; rfl)]
  cases rest with
  | nil => simp
  | cons e after => simp [Text.leadByte_eq_iff hd]

/-- A line comment is taken down and hidden. -/
theorem round?_lineComment
    (hshown : shown.length = Text.byteSize before)
    (comments : List LineComment) (rest : List Char) :
    (behind shown comments ('/' :: '/' :: rest)).round?
        (Text.encode (before ++ '/' :: '/' :: rest)) (Text.leadByte '/') =
      some (behind (shown ++ Text.encode (Piece.lineComment (splitLine rest).1).masked)
        (comments ++ [{ offset := Text.byteSize before, body := (splitLine rest).1 }])
        (splitLine rest).2) := by
  have hsize : ('/' : Char).utf8Size = 1 := by decide
  have hline : (splitLine ('/' :: '/' :: rest)).1 =
      (Piece.lineComment (splitLine rest).1).text := by
    simp [splitLine, Piece.text]
  have hbody : Text.textSlice? (Text.encode (before ++ '/' :: '/' :: rest))
      (Text.byteSize before + 2)
      (Text.byteSize before + Text.byteSize (Piece.lineComment (splitLine rest).1).text) =
        some (splitLine rest).1 :=
    Text.textSlice?_encode (before ++ ['/', '/']) (splitLine rest).1 (splitLine rest).2
      (by simp [splitLine_append]) (by simp [hsize])
      (by simp [Piece.text, hsize, ← Nat.add_assoc])
  have hparts : (Piece.lineComment (splitLine rest).1).text ++ (splitLine rest).2 =
      '/' :: '/' :: rest := by
    simp [Piece.text, splitLine_append]
  rw [round?, offset_behind hshown,
    if_pos ((opens_iff (by decide) before '/' ('/' :: rest)).mpr ⟨rfl, rfl⟩), lineEnd?_encode,
    hline]
  simp only [bind, Option.bind, hbody, note_behind]
  exact blankTo?_behind _ rfl hparts hshown _

/-- A block comment is hidden. -/
theorem round?_blockComment
    (hshown : shown.length = Text.byteSize before)
    (comments : List LineComment) (rest : List Char) :
    (behind shown comments ('/' :: '*' :: rest)).round?
        (Text.encode (before ++ '/' :: '*' :: rest)) (Text.leadByte '/') =
      some (behind (shown ++ Text.encode
        (Piece.blockComment ('/' :: '*' :: (splitAfter ['*', '/'] rest).1)).masked) comments
        (splitAfter ['*', '/'] rest).2) := by
  have hline := opens_iff (d := '/') (by decide) before '/' ('*' :: rest)
  have hblock := opens_iff (d := '*') (by decide) before '/' ('*' :: rest)
  have hparts : (Piece.blockComment ('/' :: '*' :: (splitAfter ['*', '/'] rest).1)).text ++
      (splitAfter ['*', '/'] rest).2 = '/' :: '*' :: rest := by
    simp [Piece.text, splitAfter_append]
  have hstop : Text.byteSize before + 2 + Text.byteSize (splitAfter ['*', '/'] rest).1 =
      Text.byteSize before + Text.byteSize
        (Piece.blockComment ('/' :: '*' :: (splitAfter ['*', '/'] rest).1)).text := by
    have hsizes : ('/' : Char).utf8Size = 1 ∧ ('*' : Char).utf8Size = 1 := by decide
    simp only [Piece.text, Text.byteSize_cons, hsizes]
    omega
  rw [round?, offset_behind hshown, if_neg (hline.not.mpr (by simp)),
    if_pos (hblock.mpr ⟨rfl, rfl⟩), blockEnd?_encode, hstop]
  exact blankTo?_behind _ rfl hparts hshown comments

/-- A literal is blanked out up to its end. -/
theorem blankTo?_literal
    {c : Char} {text following rest : List Char}
    (hc : c.utf8Size = 1)
    (hparts : text ++ following = rest)
    (hshown : shown.length = Text.byteSize before)
    (comments : List LineComment) :
    (behind shown comments (c :: rest)).blankTo?
        (Text.byteSize before + 1 + Text.byteSize text) =
      some (behind (shown ++ Text.encode (Piece.literal (c :: text)).masked) comments
        following) := by
  have hblank := blankTo?_behind (.literal (c :: text)) rfl
    (by rw [Piece.text, List.cons_append, hparts]) hshown comments
  rw [Piece.text, Text.byteSize_cons, hc, ← Nat.add_assoc] at hblank
  exact hblank

/-- What a round does where no comment begins. -/
theorem round?_of_noComment
    {c : Char} {rest : List Char}
    (hshown : shown.length = Text.byteSize before)
    (comments : List LineComment)
    (hline : ¬(c = '/' ∧ rest.head? = some '/'))
    (hblock : ¬(c = '/' ∧ rest.head? = some '*')) :
    (behind shown comments (c :: rest)).round? (Text.encode (before ++ c :: rest))
        (Text.leadByte c) =
      let scan := behind shown comments (c :: rest)
      if c = '"' then
        if rawMarks.contains (lastWord before).reverse then
          scan.blankTo? (Text.byteSize before + 1 + Text.byteSize (splitRaw rest).1)
        else scan.blankTo? (Text.byteSize before + 1 + Text.byteSize (splitQuoted c rest).1)
      else if c = '\'' then
        if separatesDigits (lastWord before).reverse rest then some scan.pastByte
        else scan.blankTo? (Text.byteSize before + 1 + Text.byteSize (splitQuoted c rest).1)
      else some scan.pastByte := by
  rw [round?, offset_behind hshown, if_neg ((opens_iff (by decide) before c rest).not.mpr hline),
    if_neg ((opens_iff (by decide) before c rest).not.mpr hblock)]
  simp only [Text.leadByte_eq_iff (d := '"') (by decide),
    Text.leadByte_eq_iff (d := '\'') (by decide)]
  by_cases hdouble : c = '"'
  · rw [hdouble, if_pos rfl, if_pos rfl, opensRaw?_encode, rawEnd?_encode,
      Text.leadByte_of_lt (by decide), quotedEnd_encode (Or.inl rfl)]
    rfl
  · rw [if_neg hdouble, if_neg hdouble]
    by_cases hsingle : c = '\''
    · rw [hsingle, if_pos rfl, if_pos rfl, separatesDigits?_encode,
        Text.leadByte_of_lt (by decide), quotedEnd_encode (Or.inr rfl)]
      rfl
    · rw [if_neg hsingle, if_neg hsingle]
      rfl

/-- **A round** passes the first byte of a character of code, or hides a whole piece. -/
theorem round?_cases
    (hshown : shown.length = Text.byteSize before)
    (comments : List LineComment) (c : Char) (rest : List Char) :
    (nextPiece (lastWord before).reverse c rest = (.code c, rest) ∧
        (behind shown comments (c :: rest)).round? (Text.encode (before ++ c :: rest))
          (Text.leadByte c) = some (behind shown comments (c :: rest)).pastByte) ∨
      ∃ piece following, nextPiece (lastWord before).reverse c rest = (piece, following) ∧
        (∀ d, piece ≠ .code d) ∧
        (behind shown comments (c :: rest)).round? (Text.encode (before ++ c :: rest))
          (Text.leadByte c) = some (behind (shown ++ Text.encode piece.masked)
            (comments ++ lineCommentsFrom (Text.byteSize before) [piece]) following) := by
  unfold nextPiece
  split
  · next h =>
    rw [Bool.and_eq_true, decide_eq_true_eq, decide_eq_true_eq] at h
    obtain ⟨rfl, hhead⟩ := h
    obtain ⟨rest, rfl⟩ := List.head?_eq_some_iff.mp hhead
    exact Or.inr ⟨_, _, rfl, by rintro _ ⟨⟩, round?_lineComment hshown comments rest⟩
  · next hline =>
    split
    · next h =>
      rw [Bool.and_eq_true, decide_eq_true_eq, decide_eq_true_eq] at h
      obtain ⟨rfl, hhead⟩ := h
      obtain ⟨rest, rfl⟩ := List.head?_eq_some_iff.mp hhead
      refine Or.inr ⟨_, _, rfl, by rintro _ ⟨⟩, ?_⟩
      rw [round?_blockComment hshown comments rest]
      simp only [lineCommentsFrom, List.append_nil, List.tail_cons]
    · next hblock =>
      have hround := round?_of_noComment hshown comments (by simpa using hline)
        (by simpa using hblock)
      split
      · next h =>
        rw [Bool.and_eq_true, decide_eq_true_eq] at h
        obtain ⟨rfl, hmark⟩ := h
        rw [if_pos rfl, if_pos hmark, blankTo?_literal rfl (splitRaw_append rest) hshown] at hround
        refine Or.inr ⟨.literal ('"' :: (splitRaw rest).1), (splitRaw rest).2, rfl,
          by rintro _ ⟨⟩, ?_⟩
        simp only [lineCommentsFrom, List.append_nil]
        exact hround
      · next hraw =>
        split
        · next h =>
          rw [Bool.and_eq_true, decide_eq_true_eq] at h
          obtain ⟨rfl, hdigits⟩ := h
          rw [if_neg (by decide), if_pos rfl, if_pos hdigits] at hround
          exact Or.inl ⟨rfl, hround⟩
        · next hdigits =>
          split
          · next hquote =>
            rw [Bool.or_eq_true, decide_eq_true_eq, decide_eq_true_eq] at hquote
            have hsize : c.utf8Size = 1 := by
              rcases hquote with rfl | rfl <;> rfl
            have hquoted : (behind shown comments (c :: rest)).round?
                (Text.encode (before ++ c :: rest)) (Text.leadByte c) =
                  (behind shown comments (c :: rest)).blankTo?
                    (Text.byteSize before + 1 + Text.byteSize (splitQuoted c rest).1) := by
              rw [hround]
              rcases hquote with rfl | rfl
              · rw [if_pos rfl, if_neg (by simpa using hraw)]
              · rw [if_neg (by decide), if_pos rfl, if_neg (by simpa using hdigits)]
            rw [blankTo?_literal hsize (splitQuoted_append c rest) hshown] at hquoted
            refine Or.inr ⟨.literal (c :: (splitQuoted c rest).1), (splitQuoted c rest).2, rfl,
              by rintro _ ⟨⟩, ?_⟩
            simp only [lineCommentsFrom, List.append_nil]
            exact hquoted
          · next hplain =>
            rw [Bool.or_eq_true, decide_eq_true_eq, decide_eq_true_eq, not_or] at hplain
            rw [if_neg hplain.1, if_neg hplain.2] at hround
            exact Or.inl ⟨rfl, hround⟩

end Rounds

section Run

/-- Behind the first byte of a character the reader passes the others. -/
theorem finish?_past
    {others : List UInt8}
    (h : ∀ byte ∈ others, 128 ≤ byte.toNat)
    (rounds : Nat) (front behind : List UInt8) (scan : Scan)
    (hoffset : scan.offset = front.length) :
    finish? (front ++ (others ++ behind)) (others.length + rounds) scan =
      finish? (front ++ (others ++ behind)) rounds
        { scan with offset := scan.offset + others.length } := by
  induction others generalizing front scan with
  | nil =>
      rw [List.length_nil, Nat.zero_add]
      rfl
  | cons byte others ih =>
      have hget : (front ++ (byte :: others ++ behind))[scan.offset]? = some byte := by
        rw [hoffset]
        simp
      have hlarge := h byte List.mem_cons_self
      have hnot (small : UInt8) (hsmall : small.toNat < 128) : byte ≠ small := by
        rintro rfl
        omega
      have hround : scan.round? (front ++ (byte :: others ++ behind)) byte =
          some scan.pastByte := by
        rw [round?, if_neg (fun hslash => hnot _ (by decide) hslash.1),
          if_neg (fun hslash => hnot _ (by decide) hslash.1), if_neg (hnot _ (by decide)),
          if_neg (hnot _ (by decide))]
        rfl
      have hrest := ih (fun other hother => h other (List.mem_cons_of_mem _ hother))
        (front ++ [byte]) scan.pastByte
        (by rw [pastByte, hoffset, List.length_append, List.length_singleton])
      rw [List.append_assoc] at hrest
      rw [List.length_cons, Nat.add_right_comm, finish?, hget]
      simp only [hround, Option.bind_some]
      rw [pastByte] at hrest
      simp only [Nat.add_assoc, Nat.add_comm 1] at hrest
      exact hrest

theorem finish?_of_le
    {bytes : List UInt8} {scan : Scan}
    (h : bytes.length ≤ scan.offset)
    (rounds : Nat) :
    finish? bytes rounds scan = some scan := by
  cases rounds with
  | zero => rw [finish?, if_neg (Nat.not_lt_of_le h)]
  | succ rounds => rw [finish?, List.getElem?_eq_none h]

/-- Masking keeps the number of bytes. -/
theorem length_encode_masked (piece : Piece) :
    (Text.encode piece.masked).length = Text.byteSize piece.text := by
  have hhidden (text : List Char) :
      (Text.encode (text.flatMap Piece.blankOut)).length = Text.byteSize text := by
    rw [encode_flatMap_blankOut, List.length_map, Text.length_encode]
  cases piece with
  | code c => exact Text.length_encode [c]
  | lineComment body => exact hhidden _
  | blockComment text => exact hhidden _
  | literal text => exact hhidden _

/-- A character of code is passed with all its bytes. -/
theorem finish?_pastByte
    {before : List Char} {shown : List UInt8}
    (hshown : shown.length = Text.byteSize before)
    (comments : List LineComment) (c : Char) (rest : List Char)
    {rounds : Nat}
    (hrounds : Text.byteSize (c :: rest) ≤ rounds + 1) :
    ∃ fewer, Text.byteSize rest ≤ fewer ∧
      finish? (Text.encode (before ++ c :: rest)) rounds
          (behind shown comments (c :: rest)).pastByte =
        finish? (Text.encode (before ++ c :: rest)) fewer
          (behind (shown ++ Text.encode [c]) comments rest) := by
  obtain ⟨others, hbytes, hothers⟩ := Text.exists_encodeChar_eq_cons c
  have hsize : c.utf8Size = others.length + 1 := by
    rw [← String.length_utf8EncodeChar, hbytes, List.length_cons]
  rw [Text.byteSize_cons, hsize] at hrounds
  obtain ⟨fewer, rfl⟩ := Nat.exists_eq_add_of_le (show others.length ≤ rounds by omega)
  refine ⟨fewer, by omega, ?_⟩
  have hsame : Text.encode (before ++ c :: rest) =
      (Text.encode before ++ [Text.leadByte c]) ++ (others ++ Text.encode rest) := by
    rw [Text.encode_append, Text.encode_cons, hbytes]
    simp
  have hone : Text.encode [c] = Text.leadByte c :: others := by
    rw [← hbytes]
    exact List.append_nil _
  have hbehind : { (behind shown comments (c :: rest)).pastByte with
      offset := (behind shown comments (c :: rest)).pastByte.offset + others.length } =
        behind (shown ++ Text.encode [c]) comments rest := by
    rw [pastByte, behind, behind, Scan.mk.injEq]
    refine ⟨?_, rfl, ?_⟩
    · rw [Text.encode_cons, hone, hbytes, List.append_assoc]
    · change shown.length + 1 + others.length = _
      rw [hone, List.length_append, List.length_cons]
      omega
  rw [hsame, finish?_past hothers fewer _ _ _ ?_, hbehind]
  rw [pastByte, behind, hshown, List.length_append, Text.length_encode]
  rfl

/-- What is shown of a piece and of those behind it. -/
theorem behind_cons
    (before : List Char) (shown : List UInt8) (comments : List LineComment)
    (piece : Piece) (others : List Piece) :
    behind (shown ++ Text.encode piece.masked ++ Text.encode (others.flatMap Piece.masked))
        (comments ++ lineCommentsFrom (Text.byteSize before) [piece] ++
          lineCommentsFrom (Text.byteSize (before ++ piece.text)) others) [] =
      behind (shown ++ Text.encode ((piece :: others).flatMap Piece.masked))
        (comments ++ lineCommentsFrom (Text.byteSize before) (piece :: others)) [] := by
  have hcomments := lineCommentsFrom_append (Text.byteSize before) [piece] others
  rw [List.singleton_append, List.flatMap_singleton, ← Text.byteSize_append] at hcomments
  rw [hcomments, List.flatMap_cons, Text.encode_append, List.append_assoc, List.append_assoc]

/-- A piece takes bytes from the text. -/
theorem byteSize_lt_of_nextPiece
    {word : List Char} {c : Char} {rest following : List Char} {piece : Piece}
    (h : nextPiece word c rest = (piece, following)) :
    Text.byteSize following < Text.byteSize (c :: rest) := by
  have hparts := nextPiece_append word c rest
  have hne := text_nextPiece_ne_nil word c rest
  rw [h] at hparts hne
  simp only at hparts
  obtain ⟨d, others, htext⟩ := List.exists_cons_of_ne_nil hne
  have hpos := d.utf8Size_pos
  rw [← hparts, htext, Text.byteSize_append, Text.byteSize_cons]
  omega

/-- **The reader comes to the pieces** that are cut from the rest of a text. -/
theorem finish?_behind
    {before after : List Char} {shown : List UInt8}
    (hshown : shown.length = Text.byteSize before)
    (comments : List LineComment)
    {rounds : Nat}
    (hrounds : Text.byteSize after ≤ rounds) :
    finish? (Text.encode (before ++ after)) rounds (behind shown comments after) =
      some (behind
        (shown ++ Text.encode
          ((piecesAfter (lastWord before).reverse after).flatMap Piece.masked))
        (comments ++
          lineCommentsFrom (Text.byteSize before) (piecesAfter (lastWord before).reverse after))
        []) := by
  induction hlength : after.length using Nat.strong_induction_on
    generalizing before after shown comments rounds with
  | _ length ih =>
    cases after with
    | nil =>
        have hend : (Text.encode (before ++ [])).length ≤ (behind shown comments []).offset := by
          rw [List.append_nil, Text.length_encode, behind, hshown]
        rw [finish?_of_le hend, piecesAfter]
        simp [lineCommentsFrom, Text.encode]
    | cons c rest =>
        have hget :
            (Text.encode (before ++ c :: rest))[(behind shown comments (c :: rest)).offset]? =
              some (Text.leadByte c) :=
          Text.getElem?_encode before (c :: rest) rfl hshown
        obtain ⟨rounds, rfl⟩ : ∃ fewer, rounds = fewer + 1 := by
          refine Nat.exists_eq_succ_of_ne_zero ?_
          have hpos := c.utf8Size_pos
          rw [Text.byteSize_cons] at hrounds
          omega
        rw [finish?, hget]
        simp only
        -- a byte of code is passed with its whole character, so that both cases go on between
        -- two characters
        rcases round?_cases hshown comments c rest with
          ⟨hnext, hround⟩ | ⟨piece, following, hnext, hhidden, hround⟩
        · obtain ⟨fewer, hfewer, hpast⟩ := finish?_pastByte hshown comments c rest hrounds
          have hshown' : (shown ++ Text.encode [c]).length = Text.byteSize (before ++ [c]) := by
            rw [List.length_append, hshown, Text.length_encode, Text.byteSize_append]
          have hrest := ih rest.length (by simp [← hlength]) hshown' comments hfewer rfl
          rw [List.append_assoc, List.singleton_append] at hrest
          rw [hround, Option.bind_some, hpast, hrest, piecesAfter_cons hnext,
            ← behind_cons before shown comments (.code c)]
          simp only [lineCommentsFrom, List.append_nil]
          rfl
        · have hparts := nextPiece_append (lastWord before).reverse c rest
          have hshorter := nextPiece_length (lastWord before).reverse c rest
          rw [hnext] at hparts hshorter
          simp only at hparts hshorter
          have hshown' : (shown ++ Text.encode piece.masked).length =
              Text.byteSize (before ++ piece.text) := by
            rw [List.length_append, hshown, length_encode_masked, Text.byteSize_append]
          have hfewer : Text.byteSize following ≤ rounds := by
            have hless := byteSize_lt_of_nextPiece hnext
            omega
          have hrest := ih following.length (by rwa [← hlength]) hshown'
            (comments ++ lineCommentsFrom (Text.byteSize before) [piece]) hfewer rfl
          rw [List.append_assoc, hparts] at hrest
          rw [hround, Option.bind_some, hrest, piecesAfter_cons hnext, behind_cons]

/-- **Reading in place comes to the same** masked text and the same line comments. -/
theorem ofText?_eq (text : List Char) :
    ofText? text =
      some (behind (Text.encode ((pieces text).flatMap Piece.masked))
        (lineCommentsFrom 0 (pieces text)) []) := by
  have hshown : ([] : List UInt8).length = Text.byteSize [] := rfl
  exact finish?_behind hshown [] (Nat.le_of_eq (Text.length_encode text).symm)

end Run

end Scan

end Snippet
end EpaperLayout
