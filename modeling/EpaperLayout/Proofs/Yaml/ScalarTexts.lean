import EpaperLayout.Yaml.TokenStream
import Mathlib.Tactic

/-!
# What the scanner reads of words, gaps and literal blocks

**Input.** The places of a text that begins with comments and line breaks, with a
word, or with the lines of a literal block.

**Results.**

1. Comments, line breaks and spaces are passed over up to the next token.
2. A word is read as a plain scalar up to its colon or the end of its line.
3. A literal block is read as its lines without the indentation.
-/

namespace EpaperLayout
namespace Yaml

section Places

theorem Mark.forward_forward (mark : Mark) (first second : Nat) :
    (mark.forward first).forward second = mark.forward (first + second) := by
  simp only [Mark.forward, Nat.add_assoc]

/-- A character that breaks no line is a place, and the text goes on behind it. -/
theorem placesFrom_cons
    {c : Char}
    (h : isBreak c = false)
    (mark : Mark)
    (rest : List Char) :
    placesFrom mark (c :: rest) = { char := c, mark } :: placesFrom (mark.forward 1) rest := by
  have hseparator : isSeparator c = false := by
    rw [isBreak, Bool.or_eq_false_iff] at h
    exact h.2
  rw [placesFrom.eq_def]
  split
  · next heq => cases heq
  · next heq =>
    cases heq
    cases h
  · next heq =>
    cases heq
    simp [hseparator, h]

theorem placesFrom_newline (mark : Mark) (rest : List Char) :
    placesFrom mark ('\n' :: rest) =
      { char := '\n', mark } :: placesFrom (mark.nextLine 1) rest := by
  rfl

/-- The places of the rest of a line. -/
theorem exists_places_line
    (line : List Char)
    (h : ∀ c ∈ line, isBreak c = false)
    (mark : Mark)
    (rest : List Char) :
    ∃ places, chars places = line ∧
      placesFrom mark (line ++ rest) = places ++ placesFrom (mark.forward line.length) rest := by
  induction line generalizing mark with
  | nil =>
      exact ⟨[], rfl, rfl⟩
  | cons c line ih =>
      obtain ⟨places, hchars, heq⟩ := ih (fun d hd => h d (List.mem_cons_of_mem _ hd))
        (mark.forward 1)
      rw [Mark.forward_forward, Nat.add_comm 1] at heq
      refine ⟨{ char := c, mark } :: places, ?_, ?_⟩
      · rw [← hchars]
        rfl
      · rw [List.cons_append, placesFrom_cons (h c List.mem_cons_self), heq]
        rfl

/-- The places of blank lines. -/
theorem exists_places_newlines (count : Nat) (mark : Mark) (rest : List Char) :
    ∃ places next, next.column = 0 ∧ chars places = List.replicate (count + 1) '\n' ∧
      placesFrom mark (List.replicate (count + 1) '\n' ++ rest) =
        places ++ placesFrom next rest := by
  induction count generalizing mark with
  | zero =>
      exact ⟨[{ char := '\n', mark }], mark.nextLine 1, rfl, rfl, rfl⟩
  | succ count ih =>
      obtain ⟨places, next, hnext, hchars, heq⟩ := ih (mark.nextLine 1)
      refine ⟨{ char := '\n', mark } :: places, next, hnext, ?_, ?_⟩
      · rw [List.replicate_succ, ← hchars]
        rfl
      · rw [List.replicate_succ, List.cons_append, placesFrom_newline, heq]
        rfl

end Places

section Filler

/-- A character that stands for no filler. -/
def startsToken (c : Char) : Bool :=
  !(isBreak c || c = '#' || isBlank c || isByteOrderMark c)

theorem isBreak_of_startsToken
    {c : Char}
    (h : startsToken c = true) :
    isBreak c = false := by
  rw [startsToken, Bool.not_eq_true', Bool.or_eq_false_iff, Bool.or_eq_false_iff,
    Bool.or_eq_false_iff] at h
  exact h.1.1.1

theorem isGap_of_startsToken
    {c : Char}
    (h : startsToken c = true) :
    isGap c = false := by
  rw [startsToken, Bool.not_eq_true', Bool.or_eq_false_iff, Bool.or_eq_false_iff,
    Bool.or_eq_false_iff] at h
  rw [isGap, h.1.1.1, h.1.2, Bool.or_false]

theorem skipFiller_newline (keyAllowed inComment : Bool) (mark : Mark) (rest : List Char) :
    skipFiller false keyAllowed inComment (placesFrom mark ('\n' :: rest)) =
      skipFiller false true false (placesFrom (mark.nextLine 1) rest) := by
  have hbreak : isBreak '\n' = true := by decide
  rw [placesFrom_newline, skipFiller]
  simp only [hbreak, if_true, Bool.not_false, Bool.or_true]

theorem skipFiller_inComment
    {line : List Char}
    (h : ∀ c ∈ line, isBreak c = false)
    (keyAllowed : Bool)
    (mark : Mark)
    (rest : List Char) :
    skipFiller false keyAllowed true (placesFrom mark (line ++ '\n' :: rest)) =
      skipFiller false true false
        (placesFrom ((mark.forward line.length).nextLine 1) rest) := by
  induction line generalizing mark with
  | nil =>
      exact skipFiller_newline keyAllowed true mark rest
  | cons c line ih =>
      have hc := h c List.mem_cons_self
      rw [List.cons_append, placesFrom_cons hc, skipFiller]
      simp only [hc, Bool.false_eq_true, if_false, Bool.true_or, if_true]
      rw [ih fun d hd => h d (List.mem_cons_of_mem _ hd)]
      simp only [Mark.forward, List.length_cons, Nat.add_assoc, Nat.add_comm 1]

/-- A comment is passed over with the end of its line. -/
theorem skipFiller_comment
    (line : List Char)
    (h : ∀ c ∈ line, isBreak c = false)
    (keyAllowed : Bool)
    (mark : Mark)
    (rest : List Char) :
    ∃ next : Mark, next.column = 0 ∧
      skipFiller false keyAllowed false (placesFrom mark ('#' :: (line ++ '\n' :: rest))) =
        skipFiller false true false (placesFrom next rest) := by
  have hbreak : isBreak '#' = false := by decide
  refine ⟨((mark.forward 1).forward line.length).nextLine 1, rfl, ?_⟩
  rw [placesFrom_cons hbreak, skipFiller]
  simp only [hbreak, Bool.false_eq_true, if_false, Bool.false_or, decide_true, if_true]
  exact skipFiller_inComment h keyAllowed (mark.forward 1) rest

/-- Blanks are passed over. -/
theorem skipFiller_blanks
    (keyAllowed : Bool) (count : Nat) (mark : Mark) (rest : List Char) :
    skipFiller false keyAllowed false (placesFrom mark (List.replicate count ' ' ++ rest)) =
      skipFiller false keyAllowed false (placesFrom (mark.forward count) rest) := by
  have hbreak : isBreak ' ' = false := by decide
  have hhash : ((' ' : Char) = '#') = False := by decide
  induction count generalizing mark with
  | zero =>
      rfl
  | succ count ih =>
      rw [List.replicate_succ, List.cons_append, placesFrom_cons hbreak, skipFiller]
      simp only [hbreak, hhash, Bool.false_eq_true, if_false, Bool.false_or, decide_false,
        decide_true, Bool.true_or, if_true]
      rw [ih]
      simp only [Mark.forward, Nat.add_assoc, Nat.add_comm 1]

/-- Line feeds are passed over, and a key can begin behind them. -/
theorem skipFiller_newlines
    (keyAllowed : Bool) (count : Nat) (mark : Mark) (rest : List Char) :
    ∃ next : Mark, next.column = 0 ∧
      skipFiller false keyAllowed false
          (placesFrom mark ('\n' :: (List.replicate count '\n' ++ rest))) =
        skipFiller false true false (placesFrom next rest) := by
  induction count generalizing keyAllowed mark with
  | zero =>
      exact ⟨mark.nextLine 1, rfl, skipFiller_newline keyAllowed false mark rest⟩
  | succ count ih =>
      rw [skipFiller_newline, List.replicate_succ, List.cons_append]
      exact ih true (mark.nextLine 1)

theorem skipFiller_startsToken
    {c : Char}
    (h : startsToken c = true)
    (keyAllowed : Bool)
    (mark : Mark)
    (rest : List Char) :
    skipFiller false keyAllowed false (placesFrom mark (c :: rest)) =
      (keyAllowed, placesFrom mark (c :: rest)) := by
  rw [startsToken, Bool.not_eq_true', Bool.or_eq_false_iff, Bool.or_eq_false_iff,
    Bool.or_eq_false_iff] at h
  obtain ⟨⟨⟨hbreak, hhash⟩, hblank⟩, horder⟩ := h
  rw [isBlank, Bool.or_eq_false_iff] at hblank
  rw [placesFrom_cons hbreak, skipFiller]
  simp only [hbreak, hhash, hblank.1, hblank.2, horder, Bool.false_eq_true, if_false,
    Bool.false_or, Bool.false_and]

/-- The text between a token and the next one, some lines below at a column. -/
def lineGap (blankLines column : Nat) : List Char :=
  '\n' :: (List.replicate blankLines '\n' ++ List.replicate column ' ')

theorem skipFiller_lineGap
    {c : Char}
    (h : startsToken c = true)
    (keyAllowed : Bool)
    (blankLines column : Nat)
    (mark : Mark)
    (rest : List Char) :
    ∃ next : Mark, next.column = column ∧
      skipFiller false keyAllowed false
          (placesFrom mark (lineGap blankLines column ++ c :: rest)) =
        (true, placesFrom next (c :: rest)) := by
  obtain ⟨next, hnext, hskip⟩ := skipFiller_newlines keyAllowed blankLines mark
    (List.replicate column ' ' ++ c :: rest)
  refine ⟨next.forward column, by rw [Mark.forward, hnext, Nat.zero_add], ?_⟩
  rw [lineGap, List.cons_append, List.append_assoc, hskip, skipFiller_blanks,
    skipFiller_startsToken h]

theorem exists_places_lineGap (blankLines column : Nat) (mark : Mark) (rest : List Char) :
    ∃ places next, next.column = column ∧ chars places = lineGap blankLines column ∧
      placesFrom mark (lineGap blankLines column ++ rest) = places ++ placesFrom next rest := by
  obtain ⟨newlines, first, hfirst, hnewlines, heqNewlines⟩ :=
    exists_places_newlines blankLines mark (List.replicate column ' ' ++ rest)
  obtain ⟨blanks, hblanks, heqBlanks⟩ :=
    exists_places_line (List.replicate column ' ')
      (fun c hc => by rw [List.eq_of_mem_replicate hc]; decide) first rest
  refine ⟨newlines ++ blanks, first.forward column, ?_, ?_, ?_⟩
  · rw [Mark.forward, hfirst, Nat.zero_add]
  · rw [chars, List.map_append, ← chars, ← chars, hnewlines, hblanks]
    rfl
  · rw [lineGap, ← List.cons_append, ← List.replicate_succ, List.append_assoc, heqNewlines,
      heqBlanks, List.append_assoc, List.length_replicate]

theorem mem_lineGap
    (blankLines column : Nat)
    {c : Char}
    (h : c ∈ lineGap blankLines column) :
    c = '\n' ∨ c = ' ' := by
  rw [lineGap, List.mem_cons, List.mem_append] at h
  rcases h with h | h | h
  · exact .inl h
  · exact .inl (List.eq_of_mem_replicate h)
  · exact .inr (List.eq_of_mem_replicate h)

end Filler

section Words

/-- A character that ends no word of a plain scalar. -/
def isWordChar (c : Char) : Bool :=
  Text.isIdentifierChar c || c = '.'

/-- A text that is a plain scalar of one word, and short enough for a key. -/
def isWord : List Char → Bool
  | [] => false
  | c :: cs => Text.isIdentifierChar c && cs.all isWordChar && cs.length < keyLimit

theorem isWordChar_bounds
    {c : Char}
    (h : isWordChar c = true) :
    0x2E ≤ c.toNat ∧ c.toNat ≤ 0x7A ∧ c.toNat ≠ 0x3A := by
  simp only [isWordChar, Text.isIdentifierChar, Text.isAlphanumeric, Text.isDigit, Bool.or_eq_true,
    Bool.and_eq_true, decide_eq_true_eq, beq_iff_eq, Char.le_def, UInt32.le_iff_toNat_le,
    Char.ext_iff, ← UInt32.toNat_inj] at h
  have hcode : c.toNat = c.val.toNat := rfl
  simp only [Char.reduceVal, UInt32.reduceToNat] at h
  omega

theorem isGap_of_isWordChar
    {c : Char}
    (h : isWordChar c = true) :
    isGap c = false := by
  obtain ⟨hlow, hhigh, -⟩ := isWordChar_bounds h
  rw [isGap, isBlank, isBreak, isSeparator]
  simp only [Bool.or_eq_false_iff, decide_eq_false_iff_not]
  refine ⟨⟨?_, ?_⟩, ⟨⟨?_, ?_⟩, ?_⟩, ?_, ?_⟩
  all_goals
    intro heq
    first
    | subst heq; revert hlow; decide
    | omega

theorem isBreak_of_isWordChar
    {c : Char}
    (h : isWordChar c = true) :
    isBreak c = false := by
  have hgap := isGap_of_isWordChar h
  rw [isGap, Bool.or_eq_false_iff] at hgap
  exact hgap.2

theorem startsToken_of_isIdentifierChar
    {c : Char}
    (h : Text.isIdentifierChar c = true) :
    startsToken c = true := by
  have hword : isWordChar c = true := by rw [isWordChar, h, Bool.true_or]
  have hgap := isGap_of_isWordChar hword
  rw [isGap, Bool.or_eq_false_iff] at hgap
  have horder : isByteOrderMark c = false := by
    have hhigh := (isWordChar_bounds hword).2.1
    rw [isByteOrderMark, decide_eq_false_iff_not]
    omega
  have hhash : decide (c = '#') = false := by
    rw [decide_eq_false_iff_not]
    rintro rfl
    cases h
  rw [startsToken, hgap.1, hgap.2, hhash, horder]
  rfl

theorem ne_colon_of_isWordChar
    {c : Char}
    (h : isWordChar c = true) :
    c ≠ ':' := by
  rintro rfl
  cases h

/-- A word is cut off where it ends. -/
theorem splitPlainWord_word
    {word : List Char}
    (h : ∀ c ∈ word, isWordChar c = true)
    (mark : Mark)
    (rest : List Char)
    (hrest : endsPlainWord false (placesFrom (mark.forward word.length) rest) = true) :
    splitPlainWord false (placesFrom mark (word ++ rest)) =
      (word, placesFrom (mark.forward word.length) rest) := by
  induction word generalizing mark with
  | nil =>
      rw [List.nil_append]
      change splitPlainWord false (placesFrom mark rest) = ([], placesFrom mark rest)
      change endsPlainWord false (placesFrom mark rest) = true at hrest
      rw [splitPlainWord.eq_def]
      split
      · next heq =>
        rw [heq]
      · next place others heq =>
        rw [← heq, hrest, Bool.or_true, if_pos rfl]
  | cons c word ih =>
      have hc := h c List.mem_cons_self
      have hnext := ih (fun d hd => h d (List.mem_cons_of_mem _ hd)) (mark.forward 1)
      rw [Mark.forward_forward, Nat.add_comm 1] at hnext
      have hends : endsPlainWord false (placesFrom mark (c :: (word ++ rest))) = false := by
        rw [placesFrom_cons (isBreak_of_isWordChar hc), endsPlainWord]
        simp [isGap_of_isWordChar hc, ne_colon_of_isWordChar hc]
      have hcolon : refusesColon false (placesFrom mark (c :: (word ++ rest))) = false := by
        rw [refusesColon.eq_def]
        split <;> rfl
      rw [List.cons_append]
      rw [placesFrom_cons (isBreak_of_isWordChar hc)] at hends hcolon ⊢
      rw [splitPlainWord, hends, hcolon, hnext hrest]
      rfl

end Words

section PlainScalars

theorem startsDocumentMark_eq_false
    {places : List Place}
    (h : ∀ c, head? places = some c → c ≠ '-' ∧ c ≠ '.') :
    startsDocumentMark places = false := by
  rw [startsDocumentMark.eq_def]
  split
  · next first second third rest =>
    obtain ⟨hdash, hpoint⟩ := h first.char rfl
    simp [hdash, hpoint]
  · rfl

/-- A word at the start of a text. -/
theorem exists_cons_of_isWord
    {word : List Char}
    (h : isWord word = true) :
    ∃ c cs, word = c :: cs ∧ Text.isIdentifierChar c = true ∧
      (∀ d ∈ word, isWordChar d = true) ∧ word.length ≤ keyLimit := by
  cases word with
  | nil =>
      cases h
  | cons c cs =>
      rw [isWord, Bool.and_eq_true, Bool.and_eq_true, List.all_eq_true, decide_eq_true_eq] at h
      obtain ⟨⟨hfirst, hrest⟩, hlength⟩ := h
      refine ⟨c, cs, rfl, hfirst, ?_, hlength⟩
      intro d hd
      rcases List.mem_cons.mp hd with rfl | hd
      · rw [isWordChar, hfirst, Bool.true_or]
      · exact hrest d hd

theorem head?_placesFrom_word
    {c : Char}
    (h : isWordChar c = true)
    (mark : Mark)
    (rest : List Char) :
    head? (placesFrom mark (c :: rest)) = some c := by
  rw [placesFrom_cons (isBreak_of_isWordChar h)]
  rfl

theorem startsDocumentMark_word
    {c : Char}
    (h : Text.isIdentifierChar c = true)
    (mark : Mark)
    (rest : List Char) :
    startsDocumentMark (placesFrom mark (c :: rest)) = false := by
  have hword : isWordChar c = true := by rw [isWordChar, h, Bool.true_or]
  refine startsDocumentMark_eq_false ?_
  intro d hd
  rw [head?_placesFrom_word hword, Option.some_inj] at hd
  subst hd
  constructor <;>
  · rintro rfl
    cases h

theorem startsWith_hash_word
    {c : Char}
    (h : isWordChar c = true)
    (mark : Mark)
    (rest : List Char) :
    startsWith '#' (placesFrom mark (c :: rest)) = false := by
  rw [startsWith, head?_placesFrom_word h, beq_eq_false_iff_ne, Ne, Option.some_inj]
  rintro rfl
  cases h

theorem refusesColon_false (places : List Place) :
    refusesColon false places = false := by
  rw [refusesColon.eq_def]
  split <;> rfl

/-- A text that a word of a plain scalar cannot go on with. -/
def EndsPlain (rest : List Char) : Prop :=
  ∀ mark : Mark, endsPlainWord false (placesFrom mark rest) = true

/-- A plain scalar begins with a word, and what follows the word decides how it goes on. -/
theorem readPlain_word
    {word : List Char}
    (hword : isWord word = true)
    (stop : Mark)
    (indent : Int)
    (mark : Mark)
    {rest : List Char}
    (hrest : EndsPlain rest) :
    readPlain stop false indent (placesFrom mark (word ++ rest)) =
      match (placesFrom (mark.forward word.length) rest).takeWhile fun place => isGap place.char with
      | [] =>
        .ok { text := word, endsLine := false, rest := placesFrom (mark.forward word.length) rest }
      | first :: others =>
        let next := afterSpan isGap (placesFrom (mark.forward word.length) rest)
        match misplacedTab? indent (first :: others) with
        | some tab => .error (.marked tab.mark .tabInIndentation)
        | none =>
          if ((here stop next).column : Int) < indent then
            .ok { text := word, endsLine := (chars (first :: others)).any isBreak, rest := next }
          else readPlainAfter stop false indent word (chars (first :: others)) next := by
  obtain ⟨c, cs, rfl, hfirst, hchars, -⟩ := exists_cons_of_isWord hword
  have hstarts : (startsDocumentMark (placesFrom mark (c :: cs ++ rest)) ||
      startsWith '#' (placesFrom mark (c :: cs ++ rest))) = false := by
    rw [List.cons_append, startsDocumentMark_word hfirst,
      startsWith_hash_word (hchars c List.mem_cons_self), Bool.or_false]
  have hsplit := splitPlainWord_word hchars mark rest (hrest _)
  rw [readPlain, readPlainAfter, if_neg (by rw [hstarts]; exact Bool.false_ne_true)]
  split
  next word following heq =>
    rw [hsplit] at heq
    cases heq
    have hgap : foldGap [] = [] := rfl
    rw [refusesColon_false, if_neg Bool.false_ne_true]
    simp only [List.isEmpty_cons, Bool.false_eq_true, if_false, Bool.false_and, hgap,
      List.nil_append, Bool.not_false, Bool.true_and, decide_eq_true_eq]
    generalize hgaps : (placesFrom (mark.forward (c :: cs).length) rest).takeWhile
      (fun place => isGap place.char) = gaps
    cases gaps with
    | nil => rfl
    | cons first others => rfl

/-- A text that a key can stand before. -/
def EndsWord (rest : List Char) : Prop :=
  ∀ mark : Mark, endsWord (placesFrom mark rest) = true

theorem endsPlain_colon
    {rest : List Char}
    (h : EndsWord rest) :
    EndsPlain (':' :: rest) := by
  intro mark
  rw [placesFrom_cons (by decide), endsPlainWord, h]
  rfl

theorem endsPlain_newline (rest : List Char) :
    EndsPlain ('\n' :: rest) := by
  intro mark
  rfl

/-- A word before a colon is read up to the colon. -/
theorem readPlain_key
    {word : List Char}
    (hword : isWord word = true)
    (stop : Mark)
    (indent : Int)
    (mark : Mark)
    {rest : List Char}
    (hrest : EndsWord rest) :
    readPlain stop false indent (placesFrom mark (word ++ ':' :: rest)) =
      .ok { text := word, endsLine := false,
            rest := placesFrom (mark.forward word.length) (':' :: rest) } := by
  rw [readPlain_word hword stop indent mark (endsPlain_colon hrest), placesFrom_cons (by decide)]
  rfl

/-- **A word at the end of its line is read with the gap behind it**, if the next line is not
indented deeper than the block around. -/
theorem readPlain_value
    {word : List Char}
    (hword : isWord word = true)
    (stop : Mark)
    {indent : Int}
    (mark : Mark)
    (blankLines : Nat)
    {column : Nat}
    (hcolumn : (column : Int) < indent)
    {c : Char}
    (hc : startsToken c = true)
    (rest : List Char) :
    ∃ next : Mark, next.column = column ∧
      readPlain stop false indent (placesFrom mark (word ++ (lineGap blankLines column ++ c :: rest)))
        = .ok { text := word, endsLine := true, rest := placesFrom next (c :: rest) } := by
  obtain ⟨gap, next, hnext, hchars, hplaces⟩ :=
    exists_places_lineGap blankLines column (mark.forward word.length) (c :: rest)
  have hmem : ∀ place ∈ gap, place.char = '\n' ∨ place.char = ' ' := by
    intro place hplace
    refine mem_lineGap blankLines column ?_
    rw [← hchars]
    exact List.mem_map_of_mem hplace
  have hall : ∀ place ∈ gap, isGap place.char = true := by
    intro place hplace
    rcases hmem place hplace with heq | heq <;> rw [heq] <;> decide
  have hstart : placesFrom next (c :: rest) =
      { char := c, mark := next } :: placesFrom (next.forward 1) rest :=
    placesFrom_cons (isBreak_of_startsToken hc) next rest
  have htake : (gap ++ placesFrom next (c :: rest)).takeWhile (fun place => isGap place.char) =
      gap := by
    rw [List.takeWhile_append_of_pos hall, hstart, List.takeWhile_cons_of_neg, List.append_nil]
    rw [isGap_of_startsToken hc]
    exact Bool.false_ne_true
  have hdrop : afterSpan isGap (gap ++ placesFrom next (c :: rest)) = placesFrom next (c :: rest) := by
    rw [afterSpan, List.dropWhile_append_of_pos hall, hstart, List.dropWhile_cons_of_neg]
    rw [isGap_of_startsToken hc]
    exact Bool.false_ne_true
  have hends : EndsPlain (lineGap blankLines column ++ c :: rest) := endsPlain_newline _
  refine ⟨next, hnext, ?_⟩
  rw [readPlain_word hword stop indent mark hends, hplaces, htake, hdrop]
  cases gap with
  | nil =>
      cases hchars
  | cons first others =>
      have htab : misplacedTab? indent (first :: others) = none := by
        rw [misplacedTab?, List.find?_eq_none]
        intro place hplace
        rcases hmem place ((List.dropWhile_sublist _).subset hplace) with heq | heq <;>
        · rw [heq]
          simp
      have hbreak : (chars (first :: others)).any isBreak = true := by
        rw [hchars]
        rfl
      have hdeep : ((here stop (placesFrom next (c :: rest))).column : Int) < indent := by
        rw [hstart, here, hnext]
        exact hcolumn
      simp only [htab, hbreak, if_pos hdeep]

end PlainScalars

section QuotedScalars

/-- A word in double quotes is read as it is. -/
theorem readQuotedAfter_word
    {word : List Char}
    (hword : ∀ c ∈ word, Text.isIdentifierChar c = true)
    (stop : Mark)
    (text : List Char)
    (mark : Mark)
    (rest : List Char) :
    readQuotedAfter stop '"' text {} (placesFrom mark (word ++ '"' :: rest)) =
      .ok (text ++ word, placesFrom ((mark.forward word.length).forward 1) rest) := by
  have hfold : QuotedGap.folded {} = [] := rfl
  induction word generalizing text mark with
  | nil =>
      have hstart : startsDocumentMark (placesFrom mark ('"' :: rest)) = false := by
        refine startsDocumentMark_eq_false ?_
        intro c hc
        rw [placesFrom_cons (by decide)] at hc
        obtain rfl : '"' = c := Option.some_inj.mp hc
        decide
      rw [placesFrom_cons (by decide)] at hstart
      rw [List.nil_append, placesFrom_cons (by decide), readQuotedAfter.eq_def]
      simp only [hstart, hfold, Bool.false_eq_true, if_false, List.append_nil, if_true]
      rfl
  | cons c word ih =>
      have hfirst := hword c List.mem_cons_self
      have hc : isWordChar c = true := by rw [isWordChar, hfirst, Bool.true_or]
      have hquote : c ≠ '"' := by
        rintro rfl
        cases hfirst
      have hslash : c ≠ '\\' := by
        rintro rfl
        cases hfirst
      have hstart := startsDocumentMark_word hfirst mark (word ++ '"' :: rest)
      have hnext := ih (fun d hd => hword d (List.mem_cons_of_mem _ hd)) (text ++ [c])
        (mark.forward 1)
      rw [placesFrom_cons (isBreak_of_isWordChar hc)] at hstart
      rw [List.cons_append, placesFrom_cons (isBreak_of_isWordChar hc), readQuotedAfter.eq_def]
      simp only [hstart, hfold, isGap_of_isWordChar hc, hquote, hslash, Bool.false_eq_true,
        if_false, List.append_nil, decide_true, decide_false, Bool.and_false]
      rw [hnext, List.append_assoc, Mark.forward_forward mark, List.length_cons, Nat.add_comm 1]
      rfl

end QuotedScalars

end Yaml
end EpaperLayout
