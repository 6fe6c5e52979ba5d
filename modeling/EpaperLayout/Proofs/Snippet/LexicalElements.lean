import EpaperLayout.Proofs.Snippet.Fragments
import EpaperLayout.Proofs.Snippet.PieceLocality
import EpaperLayout.Proofs.Text.Slices

/-!
# Masking is lexing

The text of a routine is made of lexical *elements*: line comments, block comments,
literals, raw literals and single other characters.  This module says what a text must
look like to split into such elements, without the reader of pieces, and shows
that masking then hides the comments and literals, byte for byte, and nothing else.

**Splits.**  A text is split from left to right, and what an element opens with is the
longest opening that stands there.  So a slash before a slash or an asterisk is no other
character, and a quote behind one of the raw prefixes opens a raw literal and
no ordinary one.  Every comment and literal that is opened must end: a text with a
literal or a block comment that does not has no split.  A single quote directly behind
a number belongs to no split, whether it would separate digits or open a literal.

**Argument.**  Reading pieces depends on what has been read by its last word only.  For
each element there is one lemma that reads it off the front of any text in which it fits;
the run over all elements carries the last word along.

**Results.**
* `splitAfter_first`: an end that cannot begin within itself is found at its first
  occurrence.
* `piecesAfter_element`, `piecesAfter_elements`: elements are cut into their pieces.
* `masked_elements`: what masking does to a text that splits.
-/

namespace EpaperLayout
namespace Snippet

/-! ## Elements -/

/-- What stands between the quotes of a literal. -/
inductive LiteralItem where
  | plain (c : Char)
  /-- A backslash with the character that it takes along, whichever that is. -/
  | escape (c : Char)
deriving DecidableEq, Repr

namespace LiteralItem

/-- The text of an item. -/
def text : LiteralItem → List Char
  | .plain c => [c]
  | .escape c => ['\\', c]

/-- The item ends neither the literal nor its line. -/
def Fits (quote : Char) : LiteralItem → Prop
  | .plain c => c ≠ quote ∧ c ≠ '\\' ∧ c ≠ '\n'
  | .escape _ => True

end LiteralItem

/-- A lexical element of a routine. -/
inductive Element where
  /-- Two slashes with the text behind them. -/
  | lineComment (body : List Char)
  /-- A slash and an asterisk, a text, and an asterisk and a slash. -/
  | blockComment (body : List Char)
  /-- A string or a character between quotes. -/
  | literal (quote : Char) (items : List LiteralItem)
  /-- A prefix, and between quotes a delimiter, a text in parentheses and the delimiter again. -/
  | rawLiteral (mark delimiter body : List Char)
  /-- Any other character. -/
  | other (c : Char)
deriving DecidableEq, Repr

namespace Element

/-- The part of an element that masking leaves as it is. -/
def shown : Element → List Char
  | .rawLiteral mark _ _ => mark
  | .other c => [c]
  | _ => []

/-- The part of an element that masking hides. -/
def hidden : Element → List Char
  | .lineComment body => '/' :: '/' :: body
  | .blockComment body => '/' :: '*' :: (body ++ ['*', '/'])
  | .literal quote items => quote :: (items.flatMap LiteralItem.text ++ [quote])
  | .rawLiteral _ delimiter body =>
    '"' :: (delimiter ++ '(' :: (body ++ ')' :: (delimiter ++ ['"'])))
  | .other _ => []

/-- The text of an element. -/
def text (element : Element) : List Char :=
  element.shown ++ element.hidden

end Element

/-- The prefixes of raw literals. -/
def rawPrefixes : List (List Char) :=
  ["R".toList, "u8R".toList, "uR".toList, "UR".toList, "LR".toList]

/-- The word of ASCII letters, digits and underscores that a text ends with. -/
def lastWord (before : List Char) : List Char :=
  before.rtakeWhile Text.isIdentifierChar

/-- A word that begins with a digit. -/
def IsNumber (word : List Char) : Prop :=
  ∃ digit ∈ word.head?, Text.isDigit digit = true

/-- A quote behind the text opens an ordinary literal: a double quote is not behind a raw prefix,
and a single quote is not behind a number. -/
def OpensLiteral (before : List Char) (quote : Char) : Prop :=
  (quote = '"' ∧ lastWord before ∉ rawPrefixes) ∨ (quote = '\'' ∧ ¬ IsNumber (lastWord before))

/-- A delimiter of raw literals. -/
structure IsDelimiter (delimiter : List Char) : Prop where
  byteSize_le : Text.byteSize delimiter ≤ 16
  clean : ∀ c ∈ delimiter, Text.isBlank c = false ∧ c ≠ '(' ∧ c ≠ ')' ∧ c ≠ '\\'

/-- The element stands between the texts `before` and `after`, and reaches as far as it should. -/
def Element.Fits (before after : List Char) : Element → Prop
  | .lineComment body => '\n' ∉ body ∧ (after = [] ∨ after.head? = some '\n')
  | .blockComment body => ¬ ['*', '/'] <:+: body
  | .literal quote items => OpensLiteral before quote ∧ ∀ item ∈ items, item.Fits quote
  | .rawLiteral mark delimiter body =>
    mark ∈ rawPrefixes ∧ lastWord before = [] ∧ IsDelimiter delimiter ∧
      ¬ (')' :: (delimiter ++ ['"'])) <:+: body
  | .other c =>
    c ≠ '"' ∧ c ≠ '\'' ∧ (c = '/' → after.head? ≠ some '/' ∧ after.head? ≠ some '*')

/-- Elements behind the text `before` each fit where they stand. -/
def AllFit : List Char → List Element → Prop
  | _, [] => True
  | before, element :: rest =>
    element.Fits before (rest.flatMap Element.text) ∧ AllFit (before ++ element.text) rest

/-- The text splits into the elements. -/
structure Splits (text : List Char) (elements : List Element) : Prop where
  text_eq : elements.flatMap Element.text = text
  allFit : AllFit [] elements

instance (quote : Char) : DecidablePred (LiteralItem.Fits quote)
  | .plain c => inferInstanceAs (Decidable (c ≠ quote ∧ c ≠ '\\' ∧ c ≠ '\n'))
  | .escape _ => isTrue trivial

instance : DecidablePred IsNumber
  | [] => isFalse fun ⟨_, hdigit, _⟩ => by cases hdigit
  | c :: _ => decidable_of_iff (Text.isDigit c = true)
      ⟨fun h => ⟨c, rfl, h⟩, fun ⟨_, hdigit, h⟩ => by cases hdigit; exact h⟩

instance (before : List Char) (quote : Char) : Decidable (OpensLiteral before quote) :=
  inferInstanceAs (Decidable (_ ∨ _))

instance (delimiter : List Char) : Decidable (IsDelimiter delimiter) :=
  decidable_of_iff
    (Text.byteSize delimiter ≤ 16 ∧
      ∀ c ∈ delimiter, Text.isBlank c = false ∧ c ≠ '(' ∧ c ≠ ')' ∧ c ≠ '\\')
    ⟨fun h => ⟨h.1, h.2⟩, fun h => ⟨h.byteSize_le, h.clean⟩⟩

instance (before after : List Char) : DecidablePred (Element.Fits before after)
  | .lineComment _ => inferInstanceAs (Decidable (_ ∧ _))
  | .blockComment _ => inferInstanceAs (Decidable (¬ _))
  | .literal _ _ => inferInstanceAs (Decidable (_ ∧ _))
  | .rawLiteral _ _ _ => inferInstanceAs (Decidable (_ ∧ _))
  | .other _ => inferInstanceAs (Decidable (_ ∧ _))

instance decidableAllFit : ∀ (before : List Char) (elements : List Element),
    Decidable (AllFit before elements)
  | _, [] => isTrue trivial
  | before, element :: rest =>
    have := decidableAllFit (before ++ element.text) rest
    inferInstanceAs (Decidable (element.Fits before _ ∧ AllFit (before ++ element.text) rest))

/-- A blank in place of a byte; a line feed stays. -/
def blankByte (byte : UInt8) : UInt8 :=
  if byte = 10 then byte else 32

/-- The bytes of an element with its hidden part blanked out. -/
def Element.maskedBytes (element : Element) : List UInt8 :=
  Text.encode element.shown ++ (Text.encode element.hidden).map blankByte

/-- The line comments among elements that begin at an offset. -/
def lineCommentsOf (offset : Nat) : List Element → List LineComment
  | [] => []
  | .lineComment body :: rest =>
    { offset, body } :: lineCommentsOf (offset + Text.byteSize ('/' :: '/' :: body)) rest
  | element :: rest => lineCommentsOf (offset + Text.byteSize element.text) rest

section LastWord

theorem lastWord_concat (before : List Char) (c : Char) :
    lastWord (before ++ [c]) =
      if Text.isIdentifierChar c then lastWord before ++ [c] else [] :=
  List.rtakeWhile_concat _ _ c

/-- No word goes over a character that belongs to none. -/
theorem lastWord_append_of_concat
    {text middle : List Char} {c : Char}
    (htext : text = middle ++ [c])
    (h : Text.isIdentifierChar c = false)
    (before : List Char) :
    lastWord (before ++ text) = [] := by
  rw [htext, ← List.append_assoc, lastWord_concat, h]
  rfl

/-- The characters of a word open nothing. -/
theorem ne_of_isIdentifierChar
    {c : Char}
    (h : Text.isIdentifierChar c = true) :
    c ≠ '/' ∧ c ≠ '"' ∧ c ≠ '\'' := by
  refine ⟨?_, ?_, ?_⟩
  all_goals
    rintro rfl
    revert h
    decide

/-- A word is code, and grows by its characters. -/
theorem piecesAfter_word
    {word : List Char}
    (h : ∀ c ∈ word, Text.isIdentifierChar c = true)
    (before rest : List Char) :
    piecesAfter before.reverse (word ++ rest) =
      word.map Piece.code ++ piecesAfter (before ++ word).reverse rest := by
  induction word generalizing before with
  | nil =>
      simp
  | cons c word ih =>
      rw [List.forall_mem_cons] at h
      have hword : wordAfter before.reverse (.code c) = (before ++ [c]).reverse := by
        simp [wordAfter, h.1]
      rw [List.cons_append, piecesAfter, nextPiece_code (ne_of_isIdentifierChar h.1)]
      simp only [hword]
      rw [ih h.2, List.append_assoc, List.singleton_append, List.map_cons, List.cons_append]

/-- A word apart from what is before it is code. -/
theorem piecesAfter_firstWord
    {word : List Char}
    (h : ∀ c ∈ word, Text.isIdentifierChar c = true)
    (rest : List Char) :
    piecesAfter [] (word ++ rest) = word.map Piece.code ++ piecesAfter word.reverse rest :=
  piecesAfter_word h [] rest

end LastWord

section Ends

/-- **An end is found at its first occurrence** if no part of it but the start looks like its
start. -/
theorem splitAfter_first
    {first : Char} {others body : List Char}
    (hfirst : first ∉ others)
    (h : ¬ (first :: others) <:+: body)
    (rest : List Char) :
    splitAfter (first :: others) (body ++ first :: (others ++ rest)) =
      (body ++ first :: others, rest) := by
  induction body with
  | nil =>
      have hbegins : (first :: others).isPrefixOf (first :: (others ++ rest)) = true := by
        rw [List.isPrefixOf_iff_prefix]
        exact List.prefix_append (first :: others) rest
      rw [List.nil_append, splitAfter, if_pos hbegins]
      simp
  | cons c body ih =>
      have hbody : ¬ (first :: others) <:+: body := fun hinfix => h (List.infix_cons hinfix)
      have hbegins : ¬ (first :: others) <+: c :: (body ++ first :: (others ++ rest)) := by
        intro hbegins
        rcases List.prefix_or_prefix_of_prefix hbegins
          (List.prefix_append (c :: body) (first :: (others ++ rest))) with hwithin | hover
        · exact h hwithin.isInfix
        -- the end would begin in the body and go on over its own start
        · obtain ⟨after, hafter⟩ := hover
          obtain ⟨-, hothers⟩ := List.cons.inj hafter
          rw [← hafter, List.cons_append, List.cons_prefix_cons, List.prefix_append_right_inj]
            at hbegins
          cases after with
          | nil =>
              refine h (List.IsPrefix.isInfix ?_)
              rw [← hafter, List.append_nil]
          | cons d after =>
              rw [List.cons_prefix_cons] at hbegins
              refine hfirst ?_
              rw [← hothers, hbegins.2.1]
              simp
      rw [List.cons_append, splitAfter, if_neg, ih hbody]
      · rfl
      · rwa [List.isPrefixOf_iff_prefix]

/-- A literal is read up to its closing quote. -/
theorem splitQuoted_items
    {quote : Char} {items : List LiteralItem}
    (hquote : quote ≠ '\\' ∧ quote ≠ '\n')
    (h : ∀ item ∈ items, item.Fits quote)
    (after : List Char) :
    splitQuoted quote (items.flatMap LiteralItem.text ++ quote :: after) =
      (items.flatMap LiteralItem.text ++ [quote], after) := by
  induction items with
  | nil =>
      rw [List.flatMap_nil, List.nil_append, splitQuoted.eq_def]
      simp
  | cons item rest ih =>
      rw [List.forall_mem_cons] at h
      have ih := ih h.2
      rw [List.flatMap_cons, List.append_assoc]
      cases item with
      | plain c =>
          obtain ⟨hclose, hbackslash, hfeed⟩ := h.1
          rw [LiteralItem.text, List.singleton_append, splitQuoted.eq_def]
          simp only [hclose, hbackslash, hfeed, if_false, ih]
          rfl
      | escape c =>
          have hclose : ¬ '\\' = quote := fun heq => hquote.1 heq.symm
          have hfeed : ¬ '\\' = '\n' := by decide
          rw [LiteralItem.text, List.cons_append, splitQuoted.eq_def]
          simp only [hclose, hfeed, if_false, if_true, List.singleton_append, ih]
          rfl

/-- A raw literal is read up to its delimiter behind a parenthesis. -/
theorem splitRaw_body
    {delimiter body : List Char}
    (hdelimiter : IsDelimiter delimiter)
    (h : ¬ (')' :: (delimiter ++ ['"'])) <:+: body)
    (after : List Char) :
    splitRaw (delimiter ++ '(' :: (body ++ ')' :: (delimiter ++ '"' :: after))) =
      (delimiter ++ '(' :: (body ++ ')' :: (delimiter ++ ['"'])), after) := by
  have hfound : rawDelimiter? (delimiter ++ '(' :: (body ++ ')' :: (delimiter ++ '"' :: after))) =
      some delimiter := by
    refine rawDelimiter?_eq_some_iff.mpr ⟨?_, ⟨_, rfl⟩, hdelimiter.byteSize_le, ?_⟩
    · intro hmem
      exact (hdelimiter.clean _ hmem).2.1 rfl
    · rw [List.any_eq_false]
      intro c hc
      obtain ⟨hblank, -, hclose, hbackslash⟩ := hdelimiter.clean c hc
      simp [endsDelimiter, hblank, hclose, hbackslash]
  have hclose : ')' ∉ delimiter ++ ['"'] := by
    rw [List.mem_append, not_or]
    exact ⟨fun hmem => (hdelimiter.clean _ hmem).2.2.1 rfl, by decide⟩
  have hend := splitAfter_first hclose h after
  rw [List.append_assoc, List.singleton_append] at hend
  rw [splitRaw, hfound]
  simp only
  rw [List.take_length_add_append, List.drop_length_add_append, List.drop_one, List.tail_cons,
    List.cons_append, hend]
  simp

end Ends

section Pieces

/-- The pieces of an element. -/
def Element.pieces (element : Element) : List Piece :=
  match element with
  | .lineComment body => [.lineComment body]
  | .blockComment _ => [.blockComment element.hidden]
  | .literal _ _ => [.literal element.hidden]
  | .rawLiteral mark _ _ => mark.map Piece.code ++ [.literal element.hidden]
  | .other c => [.code c]

/-- A view that shows characters of code as they are shows code as it is. -/
theorem flatMap_map_code
    (view : Piece → List Char)
    (h : ∀ c, view (.code c) = [c])
    (cs : List Char) :
    (cs.map Piece.code).flatMap view = cs := by
  rw [List.flatMap_map, funext h]
  exact List.flatMap_singleton' cs

theorem isIdentifierChar_of_mem_rawPrefixes
    {mark : List Char}
    (h : mark ∈ rawPrefixes) :
    ∀ c ∈ mark, Text.isIdentifierChar c = true := by
  revert mark
  decide

/-- The reader of pieces keeps its last word reversed. -/
theorem reverse_mem_rawMarks_iff (word : List Char) :
    word.reverse ∈ rawMarks ↔ word ∈ rawPrefixes := by
  have hmarks : rawMarks = rawPrefixes.map List.reverse := by decide
  rw [hmarks]
  exact List.mem_map_of_injective List.reverse_injective

/-- Only a number has digits to be separated behind it. -/
theorem separatesDigits_eq_false
    {word : List Char}
    (h : ¬ IsNumber word)
    (after : List Char) :
    separatesDigits word.reverse after = false := by
  cases word with
  | nil =>
      rfl
  | cons first rest =>
      have hfirst : Text.isDigit first = false := by
        rw [← Bool.not_eq_true]
        exact fun hdigit => h ⟨first, rfl, hdigit⟩
      have hlast : (first :: rest).reverse.getLast? = some first := by simp
      unfold separatesDigits
      rw [hlast]
      cases after <;> simp [hfirst]

theorem nextPiece_blockComment
    {body : List Char}
    (h : ¬ ['*', '/'] <:+: body)
    (word after : List Char) :
    nextPiece word '/' ('*' :: (body ++ '*' :: '/' :: after)) =
      (.blockComment ('/' :: '*' :: (body ++ ['*', '/'])), after) := by
  have hend : splitAfter ['*', '/'] (body ++ '*' :: '/' :: after) = (body ++ ['*', '/'], after) :=
    splitAfter_first (by decide) h after
  have hnot : ¬ '*' = '/' := by decide
  simp [nextPiece, hnot, hend]

theorem nextPiece_literal
    {before : List Char} {quote : Char} {items : List LiteralItem}
    (hopens : OpensLiteral before quote)
    (hitems : ∀ item ∈ items, item.Fits quote)
    (after : List Char) :
    nextPiece (lastWord before).reverse quote
        (items.flatMap LiteralItem.text ++ quote :: after) =
      (.literal (quote :: (items.flatMap LiteralItem.text ++ [quote])), after) := by
  rcases hopens with ⟨rfl, hword⟩ | ⟨rfl, hword⟩
  · have hraw : (lastWord before).reverse ∉ rawMarks := mt (reverse_mem_rawMarks_iff _).mp hword
    simp [nextPiece, hraw, splitQuoted_items ⟨by decide, by decide⟩ hitems]
  · simp [nextPiece, separatesDigits_eq_false hword,
      splitQuoted_items ⟨by decide, by decide⟩ hitems]

theorem nextPiece_rawLiteral
    {mark delimiter body : List Char}
    (hmark : mark ∈ rawPrefixes)
    (hdelimiter : IsDelimiter delimiter)
    (h : ¬ (')' :: (delimiter ++ ['"'])) <:+: body)
    (after : List Char) :
    nextPiece mark.reverse '"'
        (delimiter ++ '(' :: (body ++ ')' :: (delimiter ++ '"' :: after))) =
      (.literal ('"' :: (delimiter ++ '(' :: (body ++ ')' :: (delimiter ++ ['"'])))), after) := by
  have hraw : mark.reverse ∈ rawMarks := (reverse_mem_rawMarks_iff mark).mpr hmark
  simp [nextPiece, hraw, splitRaw_body hdelimiter h]

theorem nextPiece_other
    {c : Char} {after : List Char}
    (h : c ≠ '"' ∧ c ≠ '\'' ∧ (c = '/' → after.head? ≠ some '/' ∧ after.head? ≠ some '*'))
    (word : List Char) :
    nextPiece word c after = (.code c, after) := by
  obtain ⟨hdouble, hsingle, hslash⟩ := h
  by_cases hc : c = '/'
  · obtain ⟨hline, hblock⟩ := hslash hc
    simp [nextPiece, hc, hline, hblock]
  · exact nextPiece_code ⟨hc, hdouble, hsingle⟩ word after

/-- The character, if there is one, belongs to no word and opens no literal. -/
def IsApart : Option Char → Prop
  | none => True
  | some c => Text.isIdentifierChar c = false ∧ c ≠ '"' ∧ c ≠ '\''

instance : DecidablePred IsApart
  | none => isTrue trivial
  | some _ => inferInstanceAs (Decidable (_ ∧ _))

/-- A character apart from words leaves nothing of the word before it. -/
theorem piecesAfter_apart
    {after : List Char}
    (h : IsApart after.head?)
    (word : List Char) :
    piecesAfter word after = piecesAfter [] after := by
  cases after with
  | nil =>
      rw [piecesAfter, piecesAfter]
  | cons c rest =>
      obtain ⟨hword, hdouble, hsingle⟩ := h
      have hnext : nextPiece word c rest = nextPiece [] c rest := by
        simp [nextPiece, hdouble, hsingle]
      have hpiece : ∀ word, wordAfter word (nextPiece [] c rest).1 = [] := by
        intro word
        -- a piece that is a character of code is that character
        have hparts := nextPiece_append [] c rest
        cases hshape : (nextPiece [] c rest).1 with
        | code d =>
            rw [hshape, Piece.text, List.singleton_append] at hparts
            obtain ⟨rfl, -⟩ := List.cons.inj hparts
            simp [wordAfter, hword]
        | lineComment body => rfl
        | blockComment text => rfl
        | literal text => rfl
      rw [piecesAfter, piecesAfter, hnext, hpiece, hpiece]

theorem isApart_of_lineEnd
    {after : List Char}
    (h : after = [] ∨ after.head? = some '\n') :
    IsApart after.head? := by
  rcases h with rfl | h
  · trivial
  · rw [h]
    decide

/-- **An element is cut into its pieces** where it fits, and the last word goes on behind it. -/
theorem piecesAfter_element
    {before after : List Char} {element : Element}
    (h : element.Fits before after) :
    piecesAfter (lastWord before).reverse (element.text ++ after) =
      element.pieces ++ piecesAfter (lastWord (before ++ element.text)).reverse after := by
  cases element with
  | lineComment body =>
      change piecesAfter _ ('/' :: '/' :: (body ++ after)) = _
      rw [piecesAfter, nextPiece_lineComment h.1 h.2,
        piecesAfter_apart (isApart_of_lineEnd h.2) (List.reverse _)]
      rfl
  | blockComment body =>
      have htext : (Element.blockComment body).text ++ after =
          '/' :: '*' :: (body ++ '*' :: '/' :: after) := by
        simp [Element.text, Element.shown, Element.hidden]
      have hlast : (Element.blockComment body).text = '/' :: '*' :: (body ++ ['*']) ++ ['/'] := by
        simp [Element.text, Element.shown, Element.hidden]
      rw [lastWord_append_of_concat hlast (by decide), htext, piecesAfter,
        nextPiece_blockComment h]
      rfl
  | literal quote items =>
      obtain ⟨hopens, hitems⟩ := h
      have htext : (Element.literal quote items).text ++ after =
          quote :: (items.flatMap LiteralItem.text ++ quote :: after) := by
        simp [Element.text, Element.shown, Element.hidden]
      have hlast : (Element.literal quote items).text =
          quote :: items.flatMap LiteralItem.text ++ [quote] := by
        simp [Element.text, Element.shown, Element.hidden]
      have hquote : Text.isIdentifierChar quote = false := by
        rcases hopens with ⟨rfl, -⟩ | ⟨rfl, -⟩ <;> decide
      rw [lastWord_append_of_concat hlast hquote, htext, piecesAfter,
        nextPiece_literal hopens hitems]
      rfl
  | rawLiteral mark delimiter body =>
      obtain ⟨hmark, hword, hdelimiter, hbody⟩ := h
      have hcode := piecesAfter_firstWord (isIdentifierChar_of_mem_rawPrefixes hmark)
      have htext : (Element.rawLiteral mark delimiter body).text ++ after =
          mark ++ '"' :: (delimiter ++ '(' :: (body ++ ')' :: (delimiter ++ '"' :: after))) := by
        simp [Element.text, Element.shown, Element.hidden]
      have hlast : (Element.rawLiteral mark delimiter body).text =
          mark ++ '"' :: (delimiter ++ '(' :: (body ++ ')' :: delimiter)) ++ ['"'] := by
        simp [Element.text, Element.shown, Element.hidden]
      rw [lastWord_append_of_concat hlast (by decide), htext, hword, List.reverse_nil, hcode,
        piecesAfter, nextPiece_rawLiteral hmark hdelimiter hbody, Element.pieces,
        List.append_assoc]
      rfl
  | other c =>
      have hword : (lastWord (before ++ [c])).reverse =
          wordAfter (lastWord before).reverse (.code c) := by
        rw [lastWord_concat, wordAfter]
        split <;> simp
      change piecesAfter _ (c :: after) =
        [Piece.code c] ++ piecesAfter (lastWord (before ++ [c])).reverse after
      rw [piecesAfter, nextPiece_other h, hword]
      rfl

/-- **Elements are cut into their pieces.** -/
theorem piecesAfter_elements
    {before : List Char} {elements : List Element}
    (h : AllFit before elements) :
    piecesAfter (lastWord before).reverse (elements.flatMap Element.text) =
      elements.flatMap Element.pieces := by
  induction elements generalizing before with
  | nil =>
      rw [List.flatMap_nil, List.flatMap_nil, piecesAfter]
  | cons element rest ih =>
      rw [List.flatMap_cons, List.flatMap_cons, piecesAfter_element h.1, ih h.2]

end Pieces

section Bytes

/-- Blanking out a character blanks out its bytes. -/
theorem encode_blankOut (c : Char) :
    Text.encode (Piece.blankOut c) = (String.utf8EncodeChar c).map blankByte := by
  unfold Piece.blankOut
  split
  · next h =>
    rw [h]
    decide
  · next h =>
    have hblank : ∀ byte ∈ String.utf8EncodeChar c, blankByte byte = 32 := by
      intro byte hbyte
      refine if_neg ?_
      rintro rfl
      exact h (Text.eq_of_mem_encodeChar (by decide) hbyte)
    rw [List.map_congr_left hblank, List.map_const', String.length_utf8EncodeChar]
    induction c.utf8Size with
    | zero =>
        rfl
    | succ n ih =>
        rw [List.replicate_succ, List.replicate_succ, Text.encode, List.flatMap_cons, ← Text.encode,
          ih]
        rfl

theorem encode_flatMap_blankOut (cs : List Char) :
    Text.encode (cs.flatMap Piece.blankOut) = (Text.encode cs).map blankByte := by
  induction cs with
  | nil =>
      rfl
  | cons c rest ih =>
      rw [List.flatMap_cons, Text.encode_append, encode_blankOut, ih, Text.encode_cons,
        List.map_append]

/-- Masking hides the hidden part of an element. -/
theorem encode_masked_pieces (element : Element) :
    Text.encode (element.pieces.flatMap Piece.masked) = element.maskedBytes := by
  have hshown := flatMap_map_code Piece.masked fun _ => rfl
  rw [Element.maskedBytes, ← encode_flatMap_blankOut, ← Text.encode_append]
  cases element with
  | lineComment body =>
      simp [Element.pieces, Element.shown, Element.hidden, Piece.masked, Piece.text]
  | blockComment body => simp [Element.pieces, Element.shown, Piece.masked, Piece.text]
  | literal quote items => simp [Element.pieces, Element.shown, Piece.masked, Piece.text]
  | rawLiteral mark delimiter body =>
      simp [Element.pieces, Element.shown, hshown, Piece.masked, Piece.text]
  | other c => simp [Element.pieces, Element.shown, Element.hidden, Piece.masked]

end Bytes

section Masking

theorem flatMap_text_element (element : Element) :
    element.pieces.flatMap Piece.text = element.text := by
  have hshown := flatMap_map_code Piece.text fun _ => rfl
  rw [Element.text]
  cases element with
  | lineComment body => simp [Element.pieces, Element.shown, Element.hidden, Piece.text]
  | blockComment body => simp [Element.pieces, Element.shown, Piece.text]
  | literal quote items => simp [Element.pieces, Element.shown, Piece.text]
  | rawLiteral mark delimiter body => simp [Element.pieces, Element.shown, hshown, Piece.text]
  | other c => simp [Element.pieces, Element.shown, Element.hidden, Piece.text]

theorem lineCommentsFrom_map_code (offset : Nat) (cs : List Char) :
    lineCommentsFrom offset (cs.map Piece.code) = [] := by
  induction cs generalizing offset with
  | nil => rfl
  | cons c rest ih => exact ih _

/-- The line comments among the pieces of elements are those among the elements. -/
theorem lineCommentsFrom_elements (offset : Nat) (elements : List Element) :
    lineCommentsFrom offset (elements.flatMap Element.pieces) = lineCommentsOf offset elements := by
  induction elements generalizing offset with
  | nil =>
      rfl
  | cons element rest ih =>
      rw [List.flatMap_cons, lineCommentsFrom_append, flatMap_text_element, ih]
      cases element with
      | lineComment body => rfl
      | blockComment body => rfl
      | literal quote items => rfl
      | rawLiteral mark delimiter body =>
          rw [Element.pieces, lineCommentsFrom_append, lineCommentsFrom_map_code]
          rfl
      | other c => rfl

/-- **Masking is lexing.**  In a text that splits into elements, exactly the bytes of their hidden
parts are blanked out, and its line comments are the elements that are line comments. -/
theorem masked_elements
    {text : String} {elements : List Element}
    (h : Splits text.toList elements) :
    Text.encode (Lambda.ofText text).masked = elements.flatMap Element.maskedBytes ∧
      (Lambda.ofText text).comments = lineCommentsOf 0 elements := by
  have hpieces : pieces text.toList = elements.flatMap Element.pieces := by
    rw [← h.text_eq]
    exact piecesAfter_elements h.allFit
  constructor
  · rw [Lambda.masked]
    change Text.encode ((pieces text.toList).flatMap Piece.masked) = _
    rw [hpieces, List.flatMap_assoc, Text.encode, List.flatMap_assoc]
    exact List.flatMap_congr fun element _ => encode_masked_pieces element
  · change lineCommentsFrom 0 (pieces text.toList) = _
    rw [hpieces, lineCommentsFrom_elements]

/-- A text with elements of every kind, in which openings stand inside of other elements. -/
def mixedText : String :=
  "f(R\"x(\x7d)\" */)x\", u8R\"(\n\x7d)\") + 'a' /* \" // */ \"\\\n\x7dé\" / x // tail '\n\x7d"

/-- The characters of a text as elements of their own. -/
def otherElements (text : String) : List Element :=
  text.toList.map Element.other

/-- The elements of that text. -/
def mixedElements : List Element :=
  List.flatten [
    otherElements "f(", [.rawLiteral "R".toList "x".toList "\x7d)\" */".toList],
    otherElements ", ", [.rawLiteral "u8R".toList [] "\n\x7d".toList],
    otherElements ") + ", [.literal '\'' [.plain 'a']],
    otherElements " ", [.blockComment " \" // ".toList],
    otherElements " ", [.literal '"' [.escape '\n', .plain '}', .plain 'é']],
    otherElements " / x ", [.lineComment " tail '".toList],
    otherElements "\n\x7d"]

/-- What is hidden in a text with elements of every kind. -/
theorem masked_elements_mixedText :
    Splits mixedText.toList mixedElements ∧
      Text.encode (Lambda.ofText mixedText).masked = Text.encode
        "f(R            , u8R  \n   ) +                  \n     / x          \n\x7d".toList ∧
      (Lambda.ofText mixedText).comments = [{ offset := 57, body := " tail '".toList }] := by
  have hsplits : Splits mixedText.toList mixedElements := ⟨by decide +kernel, by decide +kernel⟩
  obtain ⟨hmasked, hcomments⟩ := masked_elements hsplits
  exact ⟨hsplits, hmasked.trans (by decide +kernel), hcomments.trans (by decide +kernel)⟩

end Masking

end Snippet
end EpaperLayout
