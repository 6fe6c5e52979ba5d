import EpaperLayout.Proofs.Snippet.Places

/-!
# Pieces end where they end

A piece of a routine is found by reading on from its first character, far ahead
for a raw literal or a block comment.  Still only two things about what follows
the piece matter: that there is something, and its first character.  So a routine
may be changed behind a blank between two pieces, and all pieces before the change
stay what they are.

**Argument.** Each way of splitting a text is looked at where it splits `t ++ w`
into `t` and `w`.  The end of `t` was then found inside `t`, or it is the line feed
that begins `w`.  The delicate case is a raw literal whose opening is not
well-formed: its delimiter is looked for beyond the end of the line, but whatever
is found there has a line feed in it.

**Results.**
* `nextPiece_congr`: the next piece depends on the first character behind it only.
* `piecesAfter_congr`: so do all pieces up to some place.
* `piecesAfter_resume`: behind a blank of the code the pieces begin anew.
-/

namespace EpaperLayout
namespace Snippet

section Splits

variable {t w w' : List Char}

/-- A line that ends before a line feed ends there whatever follows. -/
theorem splitLine_congr
    (hne : w ≠ [])
    (hhead : w.head? = w'.head?)
    (h : splitLine (t ++ w) = (t, w)) :
    w'.head? = some '\n' ∧ splitLine (t ++ w') = (t, w') := by
  rw [splitLine, Prod.mk.injEq] at h
  obtain ⟨htake, hdrop⟩ := h
  have hline : ∀ c ∈ t, (decide (c ≠ '\n')) = true := by
    intro c hc
    rw [← htake] at hc
    exact List.all_eq_true.mp (List.all_takeWhile) c hc
  have hfeed : w'.head? = some '\n' := by
    obtain ⟨c, after, rfl⟩ := List.exists_cons_of_ne_nil hne
    have hnot := List.head?_dropWhile_not (fun c => decide (c ≠ '\n')) (t ++ c :: after)
    rw [hdrop] at hnot
    rw [← hhead, List.head?_cons]
    simpa using hnot
  refine ⟨hfeed, ?_⟩
  obtain ⟨after, rfl⟩ : ∃ after, w' = '\n' :: after :=
    List.head?_eq_some_iff.mp hfeed
  rw [splitLine, List.takeWhile_append_of_pos hline, List.dropWhile_append_of_pos hline]
  simp

/-- A pattern at the end of a text is found there whatever follows. -/
theorem splitAfter_congr
    {pattern : List Char}
    (hne : w ≠ [])
    (h : splitAfter pattern (t ++ w) = (t, w)) :
    pattern.length ≤ t.length ∧ ∀ w', splitAfter pattern (t ++ w') = (t, w') := by
  induction t with
  | nil =>
      obtain ⟨c, after, rfl⟩ := List.exists_cons_of_ne_nil hne
      cases pattern with
      | nil =>
          refine ⟨Nat.le_refl _, ?_⟩
          intro w'
          cases w' <;> simp [splitAfter]
      | cons first pattern =>
          rw [List.nil_append, splitAfter] at h
          split at h <;> simp at h
  | cons c t ih =>
      rw [List.cons_append, splitAfter] at h
      split at h
      · next hbegins =>
        rw [List.isPrefixOf_iff_prefix] at hbegins
        rw [Prod.mk.injEq] at h
        -- the text is the pattern, since something follows both
        have hpattern : pattern = c :: t := by
          rw [← h.1]
          exact List.prefix_iff_eq_take.mp hbegins
        refine ⟨Nat.le_of_eq (congrArg List.length hpattern), ?_⟩
        intro w'
        rw [List.cons_append, splitAfter, if_pos]
        · simp [hpattern]
        · rw [List.isPrefixOf_iff_prefix, hpattern]
          exact List.prefix_append (c :: t) w'
      · next hbegins =>
        simp only [Prod.mk.injEq, List.cons.injEq, true_and] at h
        obtain ⟨hlength, hcongr⟩ := ih (Prod.ext h.1 h.2)
        refine ⟨by rw [List.length_cons]; omega, ?_⟩
        intro w'
        rw [List.cons_append, splitAfter, if_neg, hcongr]
        rw [List.isPrefixOf_iff_prefix] at hbegins ⊢
        intro hother
        -- an earlier occurrence would end before the text does
        have hwithin : pattern <+: c :: t :=
          List.prefix_of_prefix_length_le hother (List.prefix_append (c :: t) w')
            (by rw [List.length_cons]; omega)
        exact hbegins (hwithin.trans (List.prefix_append (c :: t) w))

/-- A literal that ends before some text ends there whatever begins with the same character. -/
theorem splitQuoted_congr
    {quote : Char} {w w' : List Char}
    (hne : w ≠ [])
    (hhead : w.head? = w'.head?) :
    ∀ {t : List Char}, splitQuoted quote (t ++ w) = (t, w) →
      splitQuoted quote (t ++ w') = (t, w')
  | [], h => by
      obtain ⟨c, after, rfl⟩ := List.exists_cons_of_ne_nil hne
      obtain ⟨after', rfl⟩ : ∃ after', w' = c :: after' := by
        cases w' with
        | nil => simp at hhead
        | cons d after' => exact ⟨after', by simp_all⟩
      rw [List.nil_append, splitQuoted.eq_def] at h
      rw [List.nil_append, splitQuoted.eq_def]
      simp only at h ⊢
      split at h
      · simp at h
      · split at h
        · simp_all
        · split at h
          · split at h <;> simp at h
          · simp at h
  | c :: t, h => by
      rw [List.cons_append, splitQuoted.eq_def] at h
      rw [List.cons_append, splitQuoted.eq_def]
      simp only at h ⊢
      split at h
      · simp_all
      · split at h
        · simp at h
        · split at h
          · next hquote hfeed hescape =>
            -- an escaped character belongs to the literal, since the backslash does
            rw [if_neg hquote, if_neg hfeed, if_pos hescape]
            match t, h with
            | [], h =>
                obtain ⟨d, after, rfl⟩ := List.exists_cons_of_ne_nil hne
                simp at h
            | d :: t, h =>
                simp only [List.cons_append, Prod.mk.injEq, List.cons.injEq, true_and] at h ⊢
                rw [splitQuoted_congr hne hhead (Prod.ext h.1 h.2)]
                exact ⟨rfl, rfl⟩
          · next hquote hfeed hescape =>
            rw [if_neg hquote, if_neg hfeed, if_neg hescape]
            simp only [Prod.mk.injEq, List.cons.injEq, true_and] at h ⊢
            rw [splitQuoted_congr hne hhead (Prod.ext h.1 h.2)]
            exact ⟨rfl, rfl⟩

/-- The delimiter of a raw literal reaches to the first opening parenthesis. -/
theorem rawDelimiter?_eq_some_iff {cs delimiter : List Char} :
    rawDelimiter? cs = some delimiter
      ↔
    '(' ∉ delimiter ∧ (∃ body, cs = delimiter ++ '(' :: body) ∧
      Text.byteSize delimiter ≤ 16 ∧ delimiter.any endsDelimiter = false := by
  constructor
  · intro h
    simp only [rawDelimiter?] at h
    split at h
    · cases h
    · next hlength =>
      split at h
      · cases h
      · next hends =>
        simp only [Bool.or_eq_true, decide_eq_true_eq, not_or, Nat.not_lt,
          Bool.not_eq_true] at hends
        rw [Option.some.injEq] at h
        have hall : ∀ c ∈ delimiter, decide (c ≠ '(') = true := by
          rw [← h]
          exact List.all_eq_true.mp List.all_takeWhile
        have hparts := List.takeWhile_append_dropWhile (p := (· ≠ '(')) (l := cs)
        rw [h] at hparts hends hlength
        refine ⟨fun hmem => by simpa using hall _ hmem, ?_, hends.1, hends.2⟩
        cases hrest : cs.dropWhile (· ≠ '(') with
        | nil =>
            rw [hrest, List.append_nil] at hparts
            exact absurd (congrArg List.length hparts) hlength
        | cons c body =>
            have hnot := List.head?_dropWhile_not (· ≠ '(') cs
            rw [hrest] at hnot hparts
            have hc : c = '(' := by simpa using hnot
            exact ⟨body, by rw [← hparts, hc]⟩
  · rintro ⟨hopen, ⟨body, rfl⟩, hsize, hends⟩
    have hall : ∀ c ∈ delimiter, decide (c ≠ '(') = true := by
      intro c hc
      rw [decide_eq_true_eq]
      rintro rfl
      exact hopen hc
    have htake : (delimiter ++ '(' :: body).takeWhile (· ≠ '(') = delimiter := by
      rw [List.takeWhile_append_of_pos hall]
      simp
    simp only [rawDelimiter?, htake]
    rw [if_neg (by simp), if_neg]
    simp only [hends, Bool.or_false, decide_eq_true_eq]
    omega

/-- No delimiter goes over the end of a line, so what comes behind the line feed never makes a raw
literal well-formed. -/
theorem rawDelimiter?_eq_none
    {t after : List Char}
    (h : rawDelimiter? (t ++ '\n' :: after) = none)
    (after' : List Char) :
    rawDelimiter? (t ++ '\n' :: after') = none := by
  by_contra hsome
  obtain ⟨delimiter, hdelimiter⟩ := Option.ne_none_iff_exists'.mp hsome
  obtain ⟨hopen, ⟨body, hbody⟩, hsize, hends⟩ := rawDelimiter?_eq_some_iff.mp hdelimiter
  have hnofeed : '\n' ∉ delimiter := by
    intro hmem
    have := List.any_eq_false.mp hends _ hmem
    exact this (by decide)
  -- the parenthesis stands before the line feed
  obtain ⟨rest, hrest⟩ : ∃ rest, t = delimiter ++ '(' :: rest := by
    rcases List.append_eq_append_iff.mp hbody with ⟨x, hx, hrest⟩ | ⟨x, hx, hrest⟩
    · cases x with
      | nil =>
          simp at hrest
      | cons d x =>
          rw [List.cons_append, List.cons.injEq] at hrest
          refine absurd ?_ hnofeed
          rw [hx, hrest.1]
          simp
    · cases x with
      | nil =>
          simp at hrest
      | cons d x =>
          rw [List.cons_append, List.cons.injEq] at hrest
          exact ⟨x, by rw [hx, hrest.1]⟩
  have hsame : rawDelimiter? (t ++ '\n' :: after) = some delimiter := by
    rw [rawDelimiter?_eq_some_iff]
    refine ⟨hopen, ⟨rest ++ '\n' :: after, ?_⟩, hsize, hends⟩
    rw [hrest, List.append_assoc, List.cons_append]
  rw [h] at hsame
  cases hsame

/-- A raw literal that ends before some text ends there whatever begins with the same
character. -/
theorem splitRaw_congr
    (hne : w ≠ [])
    (hhead : w.head? = w'.head?)
    (h : splitRaw (t ++ w) = (t, w)) :
    splitRaw (t ++ w') = (t, w') := by
  unfold splitRaw at h ⊢
  cases hdelimiter : rawDelimiter? (t ++ w) with
  | none =>
      rw [hdelimiter] at h
      obtain ⟨hfeed, hsplit⟩ := splitLine_congr hne hhead h
      obtain ⟨after', rfl⟩ : ∃ after', w' = '\n' :: after' :=
        List.head?_eq_some_iff.mp hfeed
      obtain ⟨after, rfl⟩ : ∃ after, w = '\n' :: after :=
        List.head?_eq_some_iff.mp (hhead.trans hfeed)
      rw [rawDelimiter?_eq_none hdelimiter after']
      exact hsplit
  | some delimiter =>
      rw [hdelimiter] at h
      obtain ⟨hopen, ⟨body, hbody⟩, hsize, hends⟩ := rawDelimiter?_eq_some_iff.mp hdelimiter
      have htake : ∀ body : List Char,
          (delimiter ++ '(' :: body).take (delimiter.length + 1) = delimiter ++ ['('] := by
        intro body
        rw [List.take_length_add_append]
        rfl
      have hdrop : ∀ body : List Char,
          (delimiter ++ '(' :: body).drop (delimiter.length + 1) = body := by
        intro body
        rw [List.drop_length_add_append]
        rfl
      simp only [hbody, htake, hdrop, Prod.mk.injEq] at h
      obtain ⟨hfirst, hsecond⟩ := h
      -- the text of the literal begins with its opening
      generalize hinner : (splitAfter (')' :: delimiter ++ ['"']) body).1 = inner at hfirst
      subst hfirst
      have hrest : body = inner ++ w := by
        simpa [List.append_assoc] using hbody.symm
      have hinnerSplit : splitAfter (')' :: delimiter ++ ['"']) (inner ++ w) = (inner, w) := by
        rw [← hrest]
        exact Prod.ext hinner hsecond
      have hopening : delimiter ++ ['('] ++ inner ++ w' = delimiter ++ '(' :: (inner ++ w') := by
        simp
      have hsame : rawDelimiter? (delimiter ++ '(' :: (inner ++ w')) = some delimiter :=
        rawDelimiter?_eq_some_iff.mpr ⟨hopen, ⟨_, rfl⟩, hsize, hends⟩
      rw [hopening, hsame]
      simp only [htake, hdrop, (splitAfter_congr hne hinnerSplit).2 w']

end Splits

section NextPiece

theorem separatesDigits_congr
    {after after' : List Char}
    (h : after.head? = after'.head?)
    (word : List Char) :
    separatesDigits word after = separatesDigits word after' := by
  have hhead : ∀ after : List Char, separatesDigits word after =
      ((word.getLast?.any Text.isDigit) && after.head?.any Text.isHexDigit) := by
    intro after
    unfold separatesDigits
    cases word.getLast? <;> cases after <;> simp
  rw [hhead, hhead, h]

/-- **A piece depends on the first character behind it only.** -/
theorem nextPiece_congr
    {word t w w' : List Char} {c : Char} {piece : Piece}
    (hne : w ≠ [])
    (hhead : w.head? = w'.head?)
    (h : nextPiece word c (t ++ w) = (piece, w))
    (htext : piece.text = c :: t) :
    nextPiece word c (t ++ w') = (piece, w') := by
  have hfollowing : (t ++ w).head? = (t ++ w').head? := by
    rw [List.head?_append, List.head?_append, hhead]
  unfold nextPiece at h ⊢
  rw [← hfollowing, ← separatesDigits_congr hfollowing]
  split at h
  · next hcomment =>
    rw [if_pos hcomment]
    obtain ⟨⟨body, following⟩, hsplit⟩ : ∃ split, splitLine (t ++ w).tail = split := ⟨_, rfl⟩
    rw [hsplit] at h
    obtain ⟨rfl, rfl⟩ := Prod.mk.inj h
    obtain ⟨-, rfl⟩ := List.cons.inj htext
    exact congrArg (fun split => (Piece.lineComment split.1, split.2))
      (splitLine_congr hne hhead hsplit).2
  · next hcomment =>
    rw [if_neg hcomment]
    split at h
    · next hblock =>
      rw [if_pos hblock]
      obtain ⟨⟨body, following⟩, hsplit⟩ :
          ∃ split, splitAfter ['*', '/'] (t ++ w).tail = split := ⟨_, rfl⟩
      rw [hsplit] at h
      obtain ⟨rfl, rfl⟩ := Prod.mk.inj h
      obtain ⟨-, rfl⟩ := List.cons.inj htext
      exact congrArg (fun split => (Piece.blockComment ('/' :: '*' :: split.1), split.2))
        ((splitAfter_congr hne hsplit).2 w')
    · next hblock =>
      rw [if_neg hblock]
      split at h
      · next hraw =>
        rw [if_pos hraw]
        obtain ⟨⟨body, following⟩, hsplit⟩ : ∃ split, splitRaw (t ++ w) = split := ⟨_, rfl⟩
        rw [hsplit] at h
        obtain ⟨rfl, rfl⟩ := Prod.mk.inj h
        obtain ⟨-, rfl⟩ := List.cons.inj htext
        exact congrArg (fun split => (Piece.literal (c :: split.1), split.2))
          (splitRaw_congr hne hhead hsplit)
      · next hraw =>
        rw [if_neg hraw]
        split at h
        · next hdigits =>
          rw [if_pos hdigits]
          obtain ⟨rfl, -⟩ := Prod.mk.inj h
          obtain ⟨-, rfl⟩ := List.cons.inj htext
          rfl
        · next hdigits =>
          rw [if_neg hdigits]
          split at h
          · next hquote =>
            rw [if_pos hquote]
            obtain ⟨⟨body, following⟩, hsplit⟩ : ∃ split, splitQuoted c (t ++ w) = split := ⟨_, rfl⟩
            rw [hsplit] at h
            obtain ⟨rfl, rfl⟩ := Prod.mk.inj h
            obtain ⟨-, rfl⟩ := List.cons.inj htext
            exact congrArg (fun split => (Piece.literal (c :: split.1), split.2))
              (splitQuoted_congr hne hhead hsplit)
          · next hquote =>
            rw [if_neg hquote]
            obtain ⟨rfl, -⟩ := Prod.mk.inj h
            obtain ⟨-, rfl⟩ := List.cons.inj htext
            rfl

end NextPiece

section Pieces

/-- No piece of a text is empty. -/
theorem text_ne_nil_of_mem_piecesAfter
    {word cs : List Char} {piece : Piece}
    (h : piece ∈ piecesAfter word cs) :
    piece.text ≠ [] := by
  fun_induction piecesAfter word cs with
  | case1 =>
      simp at h
  | case2 word c rest ih =>
      rcases List.mem_cons.mp h with rfl | h
      · exact text_nextPiece_ne_nil word c rest
      · exact ih h

/-- Blanks of ASCII. -/
def isPlainBlank (c : Char) : Bool :=
  c = ' ' || c = '\t' || c = '\n' || c = '\r' || c = '\x0b' || c = '\x0c'

theorem nextPiece_plainBlank
    {blank : Char}
    (h : isPlainBlank blank = true)
    (word rest : List Char) :
    nextPiece word blank rest = (.code blank, rest) := by
  simp only [isPlainBlank, Bool.or_eq_true, decide_eq_true_eq] at h
  rcases h with ((((rfl | rfl) | rfl) | rfl) | rfl) | rfl <;> simp [nextPiece]

theorem wordAfter_plainBlank
    {blank : Char}
    (h : isPlainBlank blank = true)
    (word : List Char) :
    wordAfter word (.code blank) = [] := by
  simp only [isPlainBlank, Bool.or_eq_true, decide_eq_true_eq] at h
  rcases h with ((((rfl | rfl) | rfl) | rfl) | rfl) | rfl <;> rfl

/-- **First pieces depend on the first character behind them only.** -/
theorem piecesAfter_congr
    {word w w' : List Char} {first second : List Piece}
    (hne : w ≠ [])
    (hhead : w.head? = w'.head?)
    (h : piecesAfter word (first.flatMap Piece.text ++ w) = first ++ second) :
    second = piecesAfter (first.foldl wordAfter word) w ∧
      piecesAfter word (first.flatMap Piece.text ++ w') =
        first ++ piecesAfter (first.foldl wordAfter word) w' := by
  induction first generalizing word with
  | nil =>
      exact ⟨h.symm, rfl⟩
  | cons piece first ih =>
      rw [List.flatMap_cons, List.append_assoc] at h ⊢
      generalize first.flatMap Piece.text = text at ih h ⊢
      cases htail : piece.text with
      | nil =>
          have hmem : piece ∈ piecesAfter word (piece.text ++ (text ++ w)) := by
            rw [h]
            exact List.mem_cons_self
          exact absurd htail (text_ne_nil_of_mem_piecesAfter hmem)
      | cons c t =>
          rw [htail, List.cons_append, piecesAfter] at h
          obtain ⟨hpiece, hsecond⟩ := List.cons.inj h
          have hparts := nextPiece_append word c (t ++ (text ++ w))
          rw [hpiece, htail, List.cons_append, List.cons.injEq] at hparts
          have hfollowing := List.append_cancel_left hparts.2
          rw [hpiece, hfollowing] at hsecond
          obtain ⟨hrest, hcongr⟩ := ih hsecond
          refine ⟨hrest, ?_⟩
          have hhead' : (text ++ w).head? = (text ++ w').head? := by
            rw [List.head?_append, List.head?_append, hhead]
          have hnext := nextPiece_congr (List.append_ne_nil_of_right_ne_nil text hne) hhead'
            (Prod.ext hpiece hfollowing) htail
          rw [List.cons_append, piecesAfter, hnext]
          simp only
          rw [hcongr, List.cons_append, List.foldl_cons]

/-- **Behind a blank of the code the pieces begin anew**, and the pieces before it do not depend on
what follows. -/
theorem piecesAfter_resume
    {word rest : List Char} {first second : List Piece} {blank : Char}
    (hblank : isPlainBlank blank = true)
    (h : piecesAfter word ((first ++ [Piece.code blank]).flatMap Piece.text ++ rest) =
      first ++ .code blank :: second) :
    second = piecesAfter [] rest ∧
      ∀ rest', piecesAfter word ((first ++ [Piece.code blank]).flatMap Piece.text ++ rest') =
        first ++ .code blank :: piecesAfter [] rest' := by
  have htext : ∀ rest, (first ++ [Piece.code blank]).flatMap Piece.text ++ rest =
      first.flatMap Piece.text ++ blank :: rest := by
    intro rest
    simp [Piece.text]
  have hpieces : ∀ word rest, piecesAfter word (blank :: rest) =
      .code blank :: piecesAfter [] rest := by
    intro word rest
    rw [piecesAfter, nextPiece_plainBlank hblank]
    simp only [wordAfter_plainBlank hblank]
  rw [htext] at h
  have hhead : ∀ rest', (blank :: rest).head? = (blank :: rest').head? := fun _ => rfl
  refine ⟨?_, ?_⟩
  · have hsecond := (piecesAfter_congr (List.cons_ne_nil blank rest) (hhead rest) h).1
    exact (List.cons.inj (hsecond.trans (hpieces _ rest))).2
  · intro rest'
    rw [htext, (piecesAfter_congr (List.cons_ne_nil blank rest) (hhead rest') h).2, hpieces]

end Pieces

end Snippet
end EpaperLayout
