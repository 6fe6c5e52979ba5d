import EpaperLayout.Proofs.Snippet.GapFillers
import EpaperLayout.Proofs.Snippet.LexicalElements

/-!
# Separators of digits

The digits of an integer literal may be separated by single quotes, so such a quote
opens no literal.  The reader of pieces tells the two apart by the word before the
quote, and that word reaches back to the separator before it at most.  This module
says for which literals the reader gets this right.

**Input.**  An integer literal in one of four number systems, as groups of digits with a
separator before each group but the first.  It stands between two texts, outside of
comments and literals, and apart from words and quotes.

**Argument.**  What stands before the first separator begins with a digit in every number
system.  From there on the reader takes one separator with the group behind it at a time:
it goes on if the group before the separator begins with a decimal digit, and opens a
literal if not.  The group behind the last separator is never looked at from a
separator.

**Results.**
* `piecesAfter_groups`: groups that begin with decimal digits are code.
* `isNumber_of_masked_groups`: groups that are shown begin with decimal digits.
* `seenThrough_of_radix`: separators are code in all number systems but the hexadecimal
  one, and there if there is only one of them.
* `seenThrough_iff`: all separators are code exactly if each group between two of them
  begins with a decimal digit.
-/

namespace EpaperLayout
namespace Snippet

/-- The number systems of integer literals. -/
inductive Radix where
  | decimal
  | octal
  | binary
  | hexadecimal
deriving DecidableEq, Repr

namespace Radix

/-- The texts one of which comes before the digits. -/
def marks : Radix → List (List Char)
  | .decimal | .octal => [[]]
  | .binary => ["0b".toList, "0B".toList]
  | .hexadecimal => ["0x".toList, "0X".toList]

/-- A digit of the number system. -/
def isDigit : Radix → Char → Bool
  | .decimal => Text.isDigit
  | .octal => Text.isOctalDigit
  | .binary => fun c => c == '0' || c == '1'
  | .hexadecimal => Text.isHexDigit

/-- A zero in front tells octal literals from decimal ones. -/
def allowsFirst : Radix → List Char → Bool
  | .decimal, group => group.head? != some '0'
  | .octal, group => group.head? == some '0'
  | .binary, _ => true
  | .hexadecimal, _ => true

end Radix

/-- What may stand behind the digits of an integer literal: a letter for an unsigned number and
letters for a long one, in either order. -/
def integerSuffixes : List (List Char) :=
  ["", "u", "U"].flatMap fun unsigned =>
    ["", "l", "L", "ll", "LL"].flatMap fun long =>
      [unsigned.toList ++ long.toList, long.toList ++ unsigned.toList]

/-- An integer literal with its digits in groups. -/
structure IntegerLiteral where
  radix : Radix
  mark : List Char
  mark_mem : mark ∈ radix.marks
  /-- The digits before the first separator. -/
  first : List Char
  /-- The digits behind each separator. -/
  others : List (List Char)
  digits : ∀ group ∈ first :: others, group ≠ [] ∧ ∀ c ∈ group, radix.isDigit c = true
  leading : radix.allowsFirst first = true
  ending : List Char
  ending_mem : ending ∈ integerSuffixes
deriving DecidableEq, Repr

/-- Groups of digits with a separator before each. -/
def separated (groups : List (List Char)) : List Char :=
  groups.flatMap fun group => '\'' :: group

/-- The place between two texts is outside of comments and literals: no piece goes over it. -/
def Outside (before after : List Char) : Prop :=
  ∃ first second, pieces (before ++ after) = first ++ second ∧ first.flatMap Piece.text = before

namespace IntegerLiteral

/-- What stands before the first separator. -/
def lead (number : IntegerLiteral) : List Char :=
  number.mark ++ number.first

/-- The text of a literal. -/
def text (number : IntegerLiteral) : List Char :=
  number.lead ++ (separated number.others ++ number.ending)

/-- The text of a literal without its separators. -/
def plain (number : IntegerLiteral) : List Char :=
  number.lead ++ (number.others.flatten ++ number.ending)

/-- The literal stands between the texts, outside of comments and literals and apart from words
and quotes. -/
structure StandsBetween (number : IntegerLiteral) (before after : List Char) : Prop where
  outside : Outside before (number.text ++ after)
  before_apart : IsApart before.getLast?
  after_apart : IsApart after.head?

/-- A routine with the literal between the texts. -/
def routine (number : IntegerLiteral) (before after : List Char) : Lambda where
  text := before ++ (number.text ++ after)

/-- A routine with the literal, its separators removed, between the texts. -/
def plainRoutine (number : IntegerLiteral) (before after : List Char) : Lambda where
  text := before ++ (number.plain ++ after)

/-- All of the literal is code, and around it everything is seen as without the separators: the
masked text is the same, and the line comments behind the literal have moved by one byte for each
separator. -/
structure SeenThrough (number : IntegerLiteral) (before after : List Char) : Prop where
  masked : ∃ front back, Text.byteSize front = Text.byteSize before ∧
    (number.plainRoutine before after).masked = front ++ (number.plain ++ back) ∧
      (number.routine before after).masked = front ++ (number.text ++ back)
  comments : (number.routine before after).comments =
    (number.plainRoutine before after).comments.map
      (LineComment.moved (Text.byteSize before) number.others.length)

end IntegerLiteral

section Digits

theorem isIdentifierChar_of_isHexDigit
    {c : Char}
    (h : Text.isHexDigit c = true) :
    Text.isIdentifierChar c = true := by
  unfold Text.isHexDigit Text.hexValue? at h
  unfold Text.isIdentifierChar Text.isAlphanumeric Text.isDigit
  simp only [Bool.and_eq_true, Bool.or_eq_true, decide_eq_true_eq, beq_iff_eq, Char.le_def] at h ⊢
  grind

theorem isHexDigit_of_isDigit
    {c : Char}
    (h : Text.isDigit c = true) :
    Text.isHexDigit c = true := by
  have hc : ('0' ≤ c && c ≤ '9') = true := h
  rw [Text.isHexDigit, Text.hexValue?, if_pos hc]
  rfl

namespace Radix

/-- The digits of all number systems but one are decimal digits. -/
theorem isDigit_of_ne_hexadecimal
    {radix : Radix} {c : Char}
    (hradix : radix ≠ .hexadecimal)
    (h : radix.isDigit c = true) :
    Text.isDigit c = true := by
  cases radix with
  | decimal =>
      exact h
  | octal =>
      have hc : ('0' ≤ c && c ≤ '7') = true := h
      rw [Bool.and_eq_true, decide_eq_true_eq, decide_eq_true_eq] at hc
      have hhigh : c ≤ '9' := Char.le_trans hc.2 (by decide)
      simp [Text.isDigit, hc.1, hhigh]
  | binary =>
      have hc : (c == '0' || c == '1') = true := h
      rw [Bool.or_eq_true, beq_iff_eq, beq_iff_eq] at hc
      rcases hc with rfl | rfl <;> decide
  | hexadecimal =>
      exact absurd rfl hradix

theorem isHexDigit
    {radix : Radix} {c : Char}
    (h : radix.isDigit c = true) :
    Text.isHexDigit c = true := by
  by_cases hradix : radix = .hexadecimal
  · rw [hradix] at h
    exact h
  · exact isHexDigit_of_isDigit (isDigit_of_ne_hexadecimal hradix h)

/-- What comes before the digits is a word, and begins with a digit unless it is empty. -/
theorem mark_cases
    {radix : Radix} {mark : List Char}
    (h : mark ∈ radix.marks) :
    (mark = [] ∧ radix ≠ .hexadecimal) ∨
      (IsNumber mark ∧ ∀ c ∈ mark, Text.isIdentifierChar c = true) := by
  revert mark
  cases radix <;> decide

end Radix

theorem isIdentifierChar_of_mem_integerSuffixes
    {ending : List Char}
    (h : ending ∈ integerSuffixes) :
    ∀ c ∈ ending, Text.isIdentifierChar c = true := by
  revert ending
  decide

/-- A group of digits of any number system. -/
structure IsGroup (group : List Char) : Prop where
  ne_nil : group ≠ []
  isHexDigit : ∀ c ∈ group, Text.isHexDigit c = true

theorem IsGroup.isIdentifierChar
    {group : List Char}
    (h : IsGroup group) :
    ∀ c ∈ group, Text.isIdentifierChar c = true :=
  fun c hc => isIdentifierChar_of_isHexDigit (h.isHexDigit c hc)

namespace IntegerLiteral

variable (number : IntegerLiteral)

theorem isGroup_of_mem
    {group : List Char}
    (h : group ∈ number.first :: number.others) :
    IsGroup group := by
  obtain ⟨hne, hdigits⟩ := number.digits group h
  exact ⟨hne, fun c hc => Radix.isHexDigit (hdigits c hc)⟩

/-- In all number systems but one a group begins with a decimal digit. -/
theorem isNumber_of_mem
    {group : List Char}
    (hradix : number.radix ≠ .hexadecimal)
    (h : group ∈ number.first :: number.others) :
    IsNumber group := by
  obtain ⟨hne, hdigits⟩ := number.digits group h
  obtain ⟨c, rest, rfl⟩ := List.exists_cons_of_ne_nil hne
  exact ⟨c, rfl, Radix.isDigit_of_ne_hexadecimal hradix (hdigits c List.mem_cons_self)⟩

/-- In every number system a decimal digit comes first. -/
theorem isNumber_lead : IsNumber number.lead := by
  rcases Radix.mark_cases number.mark_mem with ⟨hmark, hradix⟩ | ⟨⟨digit, hdigit, hc⟩, -⟩
  · rw [lead, hmark, List.nil_append]
    exact number.isNumber_of_mem hradix List.mem_cons_self
  · refine ⟨digit, ?_, hc⟩
    rw [lead, List.head?_append, Option.mem_def.mp hdigit]
    rfl

theorem isIdentifierChar_lead : ∀ c ∈ number.lead, Text.isIdentifierChar c = true := by
  have hfirst := (number.isGroup_of_mem List.mem_cons_self).isIdentifierChar
  rw [lead, List.forall_mem_append]
  rcases Radix.mark_cases number.mark_mem with ⟨hmark, -⟩ | ⟨-, hmark⟩
  · rw [hmark]
    exact ⟨fun c hc => absurd hc List.not_mem_nil, hfirst⟩
  · exact ⟨hmark, hfirst⟩

theorem isIdentifierChar_plain : ∀ c ∈ number.plain, Text.isIdentifierChar c = true := by
  rw [plain, List.forall_mem_append, List.forall_mem_append]
  refine ⟨number.isIdentifierChar_lead, ?_,
    isIdentifierChar_of_mem_integerSuffixes number.ending_mem⟩
  intro c hc
  obtain ⟨group, hgroup, hmem⟩ := List.mem_flatten.mp hc
  exact (number.isGroup_of_mem (List.mem_cons_of_mem _ hgroup)).isIdentifierChar c hmem

end IntegerLiteral

end Digits

section Groups

/-- **A quote behind a word and before a digit** separates digits if the word is a number. -/
theorem separatesDigits_group
    {word group : List Char}
    (hword : IsNumber word)
    (hgroup : IsGroup group)
    (rest : List Char) :
    separatesDigits word.reverse (group ++ rest) = true := by
  obtain ⟨digit, hhead, hdigit⟩ := hword
  obtain ⟨c, group', rfl⟩ := List.exists_cons_of_ne_nil hgroup.ne_nil
  have hlast : word.reverse.getLast? = some digit := by
    rw [List.getLast?_reverse]
    exact hhead
  have hc := hgroup.isHexDigit c List.mem_cons_self
  simp [separatesDigits, hlast, hdigit, hc]

/-- One separator with the group behind it. -/
theorem piecesAfter_group
    {word group : List Char}
    (hword : IsNumber word)
    (hgroup : IsGroup group)
    (rest : List Char) :
    piecesAfter word.reverse ('\'' :: (group ++ rest)) =
      .code '\'' :: (group.map Piece.code ++ piecesAfter group.reverse rest) := by
  have hnext : nextPiece word.reverse '\'' (group ++ rest) = (.code '\'', group ++ rest) := by
    simp [nextPiece, separatesDigits_group hword hgroup]
  rw [piecesAfter, hnext]
  exact congrArg (List.cons _) (piecesAfter_firstWord hgroup.isIdentifierChar rest)

/-- A quote behind a word that is no number opens a literal, so it is hidden. -/
theorem head?_masked_quote
    {word : List Char}
    (h : ¬ IsNumber word)
    (rest : List Char) :
    ((piecesAfter word.reverse ('\'' :: rest)).flatMap Piece.masked).head? = some ' ' := by
  have hnext : (nextPiece word.reverse '\'' rest).1 =
      .literal ('\'' :: (splitQuoted '\'' rest).1) := by
    simp [nextPiece, separatesDigits_eq_false h]
  rw [piecesAfter, hnext, List.flatMap_cons, Piece.masked, Piece.text, List.flatMap_cons]
  · rfl
  · simp

/-- **Groups are code** if each of them but the last is a number. -/
theorem piecesAfter_groups
    {word : List Char} {groups : List (List Char)}
    (hword : IsNumber word)
    (hgroups : ∀ group ∈ groups, IsGroup group)
    (h : ∀ group ∈ groups.dropLast, IsNumber group)
    (rest : List Char) :
    ∃ last, piecesAfter word.reverse (separated groups ++ rest) =
      (separated groups).map Piece.code ++ piecesAfter last rest := by
  induction groups generalizing word with
  | nil =>
      exact ⟨word.reverse, rfl⟩
  | cons group others ih =>
      rw [List.forall_mem_cons] at hgroups
      have hstep := piecesAfter_group hword hgroups.1 (separated others ++ rest)
      have htext : separated (group :: others) = '\'' :: (group ++ separated others) := rfl
      rw [htext, List.cons_append, List.append_assoc, hstep]
      cases others with
      | nil =>
          exact ⟨group.reverse, by simp [separated]⟩
      | cons next others =>
          rw [List.dropLast_cons_cons, List.forall_mem_cons] at h
          obtain ⟨last, hlast⟩ := ih h.1 hgroups.2 h.2
          exact ⟨last, by rw [hlast]; simp⟩

/-- **Groups that are shown** are numbers, each of them but the last. -/
theorem isNumber_of_masked_groups
    {word rest back : List Char} {groups : List (List Char)}
    (hword : IsNumber word)
    (hgroups : ∀ group ∈ groups, IsGroup group)
    (h : (piecesAfter word.reverse (separated groups ++ rest)).flatMap Piece.masked =
      separated groups ++ back) :
    ∀ group ∈ groups.dropLast, IsNumber group := by
  induction groups generalizing word with
  | nil =>
      exact fun group hgroup => absurd hgroup List.not_mem_nil
  | cons group others ih =>
      rw [List.forall_mem_cons] at hgroups
      have htext : separated (group :: others) = '\'' :: (group ++ separated others) := rfl
      rw [htext, List.cons_append, List.append_assoc,
        piecesAfter_group hword hgroups.1, List.flatMap_cons, List.flatMap_append,
        flatMap_map_code Piece.masked fun _ => rfl, Piece.masked, List.singleton_append,
        List.cons_append, List.append_assoc] at h
      have hothers := List.append_cancel_left (List.cons.inj h).2
      cases others with
      | nil =>
          exact fun group hgroup => absurd hgroup List.not_mem_nil
      | cons next others =>
          rw [List.dropLast_cons_cons, List.forall_mem_cons]
          -- the separator behind the group would open a literal, and be hidden
          have hgroup : IsNumber group := by
            by_contra hnot
            have hhidden := head?_masked_quote hnot (next ++ separated others ++ rest)
            have hshown := congrArg List.head? hothers
            exact absurd (hhidden.symm.trans hshown) (by simp [separated])
          exact ⟨hgroup, ih hgroup hgroups.2 hothers⟩

end Groups

section Literals

/-- Behind pieces that end apart from words there is no word. -/
theorem foldl_wordAfter_eq_nil
    {first : List Piece}
    (h : IsApart (first.flatMap Piece.text).getLast?) :
    first.foldl wordAfter [] = [] := by
  cases first using List.reverseRecOn with
  | nil =>
      rfl
  | append_singleton first piece =>
      rw [List.foldl_append, List.foldl_cons, List.foldl_nil]
      cases piece with
      | code c =>
          rw [List.flatMap_append, List.flatMap_singleton, Piece.text, List.getLast?_concat] at h
          simp [wordAfter, h.1]
      | lineComment body => rfl
      | blockComment text => rfl
      | literal text => rfl

/-- Texts that are the same are split alike by the sizes of their first parts. -/
theorem append_inj_of_byteSize
    {front front' back back' : List Char}
    (h : front ++ back = front' ++ back')
    (hsize : Text.byteSize front = Text.byteSize front') :
    back = back' := by
  have hnil : ∀ middle : List Char, Text.byteSize middle = 0 → middle = [] := by
    intro middle hmiddle
    cases middle with
    | nil =>
        rfl
    | cons c rest =>
        have hpos := c.utf8Size_pos
        rw [Text.byteSize_cons] at hmiddle
        omega
  rcases List.append_eq_append_iff.mp h with ⟨middle, rfl, rfl⟩ | ⟨middle, rfl, rfl⟩
  all_goals
    rw [Text.byteSize_append] at hsize
    rw [hnil middle (by omega), List.nil_append]

theorem byteSize_separated (groups : List (List Char)) :
    Text.byteSize (separated groups) = Text.byteSize groups.flatten + groups.length := by
  induction groups with
  | nil =>
      rfl
  | cons group others ih =>
      have hquote : ('\'' : Char).utf8Size = 1 := by decide
      have htext : separated (group :: others) = '\'' :: (group ++ separated others) := rfl
      rw [htext, Text.byteSize_cons, Text.byteSize_append, ih, List.flatten_cons,
        Text.byteSize_append, List.length_cons, hquote]
      omega

namespace IntegerLiteral

variable {number : IntegerLiteral} {before after : List Char}

theorem byteSize_text (number : IntegerLiteral) :
    Text.byteSize number.text = Text.byteSize number.plain + number.others.length := by
  simp only [text, plain, Text.byteSize_append, byteSize_separated]
  omega

theorem lead_ne_nil (number : IntegerLiteral) : number.lead ≠ [] := by
  obtain ⟨digit, hdigit, -⟩ := number.isNumber_lead
  exact List.ne_nil_of_mem (List.mem_of_mem_head? hdigit)

/-- The literal is read apart from what is before it, with and without its separators. -/
theorem StandsBetween.exists_pieces
    (h : number.StandsBetween before after) :
    ∃ first, first.flatMap Piece.text = before ∧
      pieces (number.routine before after).text =
        first ++ piecesAfter [] (number.text ++ after) ∧
      pieces (number.plainRoutine before after).text =
        first ++ piecesAfter [] (number.plain ++ after) := by
  obtain ⟨first, second, hpieces, rfl⟩ := h.outside
  have hword : first.foldl wordAfter [] = [] := foldl_wordAfter_eq_nil h.before_apart
  have hne : number.text ++ after ≠ [] := by
    rw [text, List.append_assoc]
    exact List.append_ne_nil_of_left_ne_nil number.lead_ne_nil _
  -- what is before the literal looks at its first character only, and that is no separator
  have hhead : (number.text ++ after).head? = (number.plain ++ after).head? := by
    rw [text, plain, List.append_assoc, List.append_assoc number.lead,
      List.head?_append_of_ne_nil _ number.lead_ne_nil,
      List.head?_append_of_ne_nil _ number.lead_ne_nil]
  obtain ⟨hsecond, hplain⟩ := piecesAfter_congr hne hhead hpieces
  rw [hword] at hsecond hplain
  refine ⟨first, rfl, ?_, hplain⟩
  rw [← hsecond]
  exact hpieces

/-- A literal without separators is code, and what follows is read apart from it. -/
theorem piecesAfter_plain
    (number : IntegerLiteral)
    (hafter : IsApart after.head?) :
    piecesAfter [] (number.plain ++ after) =
      number.plain.map Piece.code ++ piecesAfter [] after := by
  rw [piecesAfter_firstWord number.isIdentifierChar_plain,
    piecesAfter_apart hafter (List.reverse _)]

/-- What stands before the first separator is code. -/
theorem piecesAfter_lead (number : IntegerLiteral) (after : List Char) :
    piecesAfter [] (number.text ++ after) =
      number.lead.map Piece.code ++
        piecesAfter number.lead.reverse
          (separated number.others ++ (number.ending ++ after)) := by
  rw [text, List.append_assoc, List.append_assoc,
    piecesAfter_firstWord number.isIdentifierChar_lead]

/-- The ending of a literal is code, and what follows is read apart from it. -/
theorem piecesAfter_ending
    (number : IntegerLiteral)
    (hafter : IsApart after.head?)
    (last : List Char) :
    piecesAfter last (number.ending ++ after) =
      number.ending.map Piece.code ++ piecesAfter [] after := by
  have hcode := piecesAfter_word (isIdentifierChar_of_mem_integerSuffixes number.ending_mem)
    last.reverse after
  rw [List.reverse_reverse, piecesAfter_apart hafter (List.reverse _)] at hcode
  exact hcode

/-- **All of a literal is code** if each group between two separators is a number. -/
theorem piecesAfter_text
    (number : IntegerLiteral)
    (hafter : IsApart after.head?)
    (h : ∀ group ∈ number.others.dropLast, IsNumber group) :
    piecesAfter [] (number.text ++ after) =
      number.text.map Piece.code ++ piecesAfter [] after := by
  have hgroups : ∀ group ∈ number.others, IsGroup group := fun group hgroup =>
    number.isGroup_of_mem (List.mem_cons_of_mem _ hgroup)
  obtain ⟨last, hlast⟩ := piecesAfter_groups number.isNumber_lead hgroups h (number.ending ++ after)
  rw [piecesAfter_lead, hlast, piecesAfter_ending number hafter, text]
  simp

/-- **Everything is seen as without the separators** if each group between two of them is a
number. -/
theorem seenThrough_of_isNumber
    (hstands : number.StandsBetween before after)
    (h : ∀ group ∈ number.others.dropLast, IsNumber group) :
    number.SeenThrough before after := by
  obtain ⟨first, rfl, hpieces, hplain⟩ := hstands.exists_pieces
  rw [piecesAfter_text number hstands.after_apart h] at hpieces
  rw [piecesAfter_plain number hstands.after_apart] at hplain
  have hcode : ∀ cs : List Char, (cs.map Piece.code).flatMap Piece.masked = cs :=
    flatMap_map_code Piece.masked fun _ => rfl
  have htext : ∀ cs : List Char, (cs.map Piece.code).flatMap Piece.text = cs :=
    flatMap_map_code Piece.text fun _ => rfl
  constructor
  · refine ⟨first.flatMap Piece.masked, (piecesAfter [] after).flatMap Piece.masked,
      byteSize_flatMap_masked_pieces first, ?_, ?_⟩
    · rw [Lambda.masked, hplain, List.flatMap_append, List.flatMap_append, hcode]
    · rw [Lambda.masked, hpieces, List.flatMap_append, List.flatMap_append, hcode]
  · simp only [Lambda.comments, hpieces, hplain, lineCommentsFrom_append,
      lineCommentsFrom_map_code, htext, List.nil_append, List.map_append, byteSize_text]
    have hbehind : Text.byteSize (first.flatMap Piece.text) ≤
        0 + Text.byteSize (first.flatMap Piece.text) + Text.byteSize number.plain := by
      omega
    rw [map_moved_lineCommentsFrom_before (Nat.le_refl _), ← Nat.add_assoc,
      map_moved_lineCommentsFrom_behind hbehind]

/-- If all of a literal is seen, each group between two separators is a number. -/
theorem SeenThrough.isNumber
    (h : number.SeenThrough before after)
    (hstands : number.StandsBetween before after) :
    ∀ group ∈ number.others.dropLast, IsNumber group := by
  obtain ⟨first, rfl, hpieces, -⟩ := hstands.exists_pieces
  obtain ⟨front, back, hsize, -, hmasked⟩ := h.masked
  have hgroups : ∀ group ∈ number.others, IsGroup group := fun group hgroup =>
    number.isGroup_of_mem (List.mem_cons_of_mem _ hgroup)
  rw [Lambda.masked, hpieces, List.flatMap_append] at hmasked
  have hliteral := append_inj_of_byteSize hmasked
    ((byteSize_flatMap_masked_pieces first).trans hsize.symm)
  rw [piecesAfter_lead, List.flatMap_append, flatMap_map_code Piece.masked fun _ => rfl, text,
    List.append_assoc, List.append_assoc] at hliteral
  exact isNumber_of_masked_groups number.isNumber_lead hgroups (List.append_cancel_left hliteral)

/-- **Separators are code** in all number systems but the hexadecimal one, and there if there is
only one separator. -/
theorem seenThrough_of_radix
    (hstands : number.StandsBetween before after)
    (h : number.radix ≠ .hexadecimal ∨ number.others.length ≤ 1) :
    number.SeenThrough before after := by
  refine seenThrough_of_isNumber hstands ?_
  intro group hgroup
  rcases h with hradix | hlength
  · exact number.isNumber_of_mem hradix
      (List.mem_cons_of_mem _ (List.mem_of_mem_dropLast hgroup))
  · have hnil : number.others.dropLast = [] := by
      rw [← List.length_eq_zero_iff, List.length_dropLast]
      omega
    rw [hnil] at hgroup
    cases hgroup

/-- **Digit separators open no literal** exactly if each group between two of them begins with a
decimal digit; then all of the literal is code, and around it everything is seen as without the
separators. -/
theorem seenThrough_iff
    {number : IntegerLiteral} {before after : List Char}
    (hstands : number.StandsBetween before after) :
    number.SeenThrough before after
      ↔
    ∀ group ∈ number.others.dropLast, IsNumber group :=
  ⟨fun h => h.isNumber hstands, seenThrough_of_isNumber hstands⟩

/-- Three bytes, the middle one with a decimal digit first. -/
def digitInside : IntegerLiteral where
  radix := .hexadecimal
  mark := "0x".toList
  mark_mem := by decide
  first := "FF".toList
  others := ["0F".toList, "FF".toList]
  digits := by decide
  leading := by decide
  ending := "u".toList
  ending_mem := by decide

/-- The separators of three bytes, between a brace and a comment that holds another. -/
theorem seenThrough_iff_digitInside :
    digitInside.text = "0xFF'0F'FFu".toList ∧
      digitInside.StandsBetween "\x7b n = ".toList "; // \x7b'".toList ∧
      digitInside.SeenThrough "\x7b n = ".toList "; // \x7b'".toList := by
  have hstands : digitInside.StandsBetween "\x7b n = ".toList "; // \x7b'".toList :=
    { outside := ⟨(pieces _).take 6, (pieces _).drop 6, (List.take_append_drop 6 _).symm,
        by decide +kernel⟩
      before_apart := by decide
      after_apart := by decide }
  exact ⟨by decide, hstands, (seenThrough_iff hstands).mpr (by decide)⟩

/-- Three bytes, the middle one with a letter first. -/
def letterInside : IntegerLiteral where
  radix := .hexadecimal
  mark := "0x".toList
  mark_mem := by decide
  first := "FF".toList
  others := ["FF".toList, "FF".toList]
  digits := by decide
  leading := by decide
  ending := []
  ending_mem := by decide

/-- The second separator opens a literal, which hides the braces on the line. -/
theorem not_seenThrough_letterInside :
    letterInside.text = "0xFF'FF'FF".toList ∧
      letterInside.StandsBetween "n = ".toList "; \x7b \x7d\n\x7d".toList ∧
      (letterInside.routine "n = ".toList "; \x7b \x7d\n\x7d".toList).masked =
        "n = 0xFF'FF        \n\x7d".toList ∧
      ¬ letterInside.SeenThrough "n = ".toList "; \x7b \x7d\n\x7d".toList := by
  have hstands : letterInside.StandsBetween "n = ".toList "; \x7b \x7d\n\x7d".toList :=
    { outside := ⟨(pieces _).take 4, (pieces _).drop 4, (List.take_append_drop 4 _).symm,
        by decide +kernel⟩
      before_apart := by decide
      after_apart := by decide }
  refine ⟨by decide, hstands, by decide +kernel, ?_⟩
  intro hseen
  exact absurd (hseen.isNumber hstands) (by decide)

end IntegerLiteral

end Literals

end Snippet
end EpaperLayout
