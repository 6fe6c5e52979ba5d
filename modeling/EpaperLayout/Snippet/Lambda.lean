import EpaperLayout.Text.Blank
import EpaperLayout.Text.Numeral
import EpaperLayout.Text.Utf8

/-!
# Drawing routines as texts

A display draws its pages with a routine in C++.  Only the outer shape of the
routine matters here, so its text is cut into *pieces*: characters of code, line
comments, block comments and literals.  Everything else is a view of the pieces.

**Lexical rules.** A literal ends with its quote, or before the end of the line
if there is none; a backslash takes the next character with it.  A quote after
one of the prefixes `R`, `u8R`, `uR`, `UR` and `LR` opens a raw literal, which
ends with a closing parenthesis, the delimiter and a quote; if its opening is not
well-formed the literal reaches to the end of the line.  A single quote between a
word that begins with a digit and a hexadecimal digit separates digits and is
code.

**Views.** The *masked* text has every byte of comments and literals replaced by
a space, except line feeds, so that offsets and lines stay what they are.  The
line comments are listed with their offsets.

**Results.** The pieces of a text put together give the text again.
-/

namespace EpaperLayout
namespace Snippet

/-- A part of a routine. -/
inductive Piece where
  /-- A character outside comments and literals. -/
  | code (c : Char)
  /-- A line comment, with the text after its slashes. -/
  | lineComment (body : List Char)
  /-- A block comment with its opening and, if there is one, its end. -/
  | blockComment (text : List Char)
  /-- A literal from its opening quote on. -/
  | literal (text : List Char)
deriving DecidableEq, Repr

namespace Piece

/-- The text of a piece. -/
def text : Piece → List Char
  | .code c => [c]
  | .lineComment body => '/' :: '/' :: body
  | .blockComment text => text
  | .literal text => text

/-- Spaces in place of the bytes of a character; a line feed stays. -/
def blankOut (c : Char) : List Char :=
  if c = '\n' then ['\n'] else List.replicate c.utf8Size ' '

/-- The text of a piece with comments and literals blanked out. -/
def masked : Piece → List Char
  | .code c => [c]
  | piece => piece.text.flatMap blankOut

end Piece

/-- The text up to the end of the line, and what follows from the line feed on. -/
def splitLine (cs : List Char) : List Char × List Char :=
  (cs.takeWhile (· ≠ '\n'), cs.dropWhile (· ≠ '\n'))

/-- The text up to and with the first occurrence of the pattern, and what follows; the whole text
if there is none. -/
def splitAfter (pattern : List Char) : List Char → List Char × List Char
  | [] => ([], [])
  | c :: rest =>
    if pattern.isPrefixOf (c :: rest) then
      ((c :: rest).take pattern.length, (c :: rest).drop pattern.length)
    else
      let (before, after) := splitAfter pattern rest
      (c :: before, after)

/-- The text of a literal after its opening quote, with its closing quote if there is one, and
what follows. -/
def splitQuoted (quote : Char) : List Char → List Char × List Char
  | [] => ([], [])
  | c :: rest =>
    if c = quote then ([c], rest)
    else if c = '\n' then ([], c :: rest)
    else if c = '\\' then
      match rest with
      | [] => ([c], [])
      | d :: after =>
        let (text, following) := splitQuoted quote after
        (c :: d :: text, following)
    else
      let (text, following) := splitQuoted quote rest
      (c :: text, following)

/-- A character that no delimiter of a raw literal holds. -/
def endsDelimiter (c : Char) : Bool :=
  Text.isBlank c || c = ')' || c = '\\'

/-- The delimiter of a raw literal, if its opening is well-formed; `cs` follows the quote. -/
def rawDelimiter? (cs : List Char) : Option (List Char) :=
  let delimiter := cs.takeWhile (· ≠ '(')
  if delimiter.length = cs.length then none
  else if 16 < Text.byteSize delimiter || delimiter.any endsDelimiter then none
  else some delimiter

/-- The text of a raw literal after its opening quote, and what follows. -/
def splitRaw (cs : List Char) : List Char × List Char :=
  match rawDelimiter? cs with
  | none => splitLine cs
  | some delimiter =>
    let opening := cs.take (delimiter.length + 1)
    let (text, following) := splitAfter (')' :: delimiter ++ ['"'])
      (cs.drop (delimiter.length + 1))
    (opening ++ text, following)

/-- The words after which a quote opens a raw literal, each reversed. -/
def rawMarks : List (List Char) :=
  [['R'], ['R', '8', 'u'], ['R', 'u'], ['R', 'U'], ['R', 'L']]

/-- Whether a single quote separates digits: `word` comes, reversed, before it and `after` follows
it. -/
def separatesDigits (word after : List Char) : Bool :=
  match word.getLast?, after with
  | some first, next :: _ => Text.isDigit first && Text.isHexDigit next
  | _, _ => false

/-- The piece at the start of the text `c :: rest`, and what follows it; `word` is the word just
before it, reversed. -/
def nextPiece (word : List Char) (c : Char) (rest : List Char) : Piece × List Char :=
  if c = '/' && rest.head? = some '/' then
    let (body, following) := splitLine rest.tail
    (.lineComment body, following)
  else if c = '/' && rest.head? = some '*' then
    let (text, following) := splitAfter ['*', '/'] rest.tail
    (.blockComment ('/' :: '*' :: text), following)
  else if c = '"' && rawMarks.contains word then
    let (text, following) := splitRaw rest
    (.literal (c :: text), following)
  else if c = '\'' && separatesDigits word rest then (.code c, rest)
  else if c = '"' || c = '\'' then
    let (text, following) := splitQuoted c rest
    (.literal (c :: text), following)
  else (.code c, rest)

/-- The word before what follows a piece, reversed. -/
def wordAfter (word : List Char) : Piece → List Char
  | .code c => if Text.isIdentifierChar c then c :: word else []
  | _ => []

/-- The two parts of a line make up the text. -/
theorem splitLine_append (cs : List Char) : (splitLine cs).1 ++ (splitLine cs).2 = cs := by
  simp [splitLine]

/-- The parts before and after a pattern make up the text. -/
theorem splitAfter_append (pattern cs : List Char) :
    (splitAfter pattern cs).1 ++ (splitAfter pattern cs).2 = cs := by
  induction cs with
  | nil => rfl
  | cons c rest ih =>
    unfold splitAfter
    split
    · exact List.take_append_drop _ _
    · simpa using ih

/-- A literal and what follows it make up the text. -/
theorem splitQuoted_append (quote : Char) (cs : List Char) :
    (splitQuoted quote cs).1 ++ (splitQuoted quote cs).2 = cs := by
  fun_induction splitQuoted quote cs <;> simp_all

/-- A raw literal and what follows it make up the text. -/
theorem splitRaw_append (cs : List Char) : (splitRaw cs).1 ++ (splitRaw cs).2 = cs := by
  unfold splitRaw
  split
  · exact splitLine_append cs
  · next delimiter _ =>
    simp only [List.append_assoc, splitAfter_append]
    exact List.take_append_drop _ _

/-- A piece and what follows it make up the text. -/
theorem nextPiece_append (word : List Char) (c : Char) (rest : List Char) :
    (nextPiece word c rest).1.text ++ (nextPiece word c rest).2 = c :: rest := by
  unfold nextPiece
  split
  · next h =>
    obtain ⟨hc, hr⟩ : c = '/' ∧ rest.head? = some '/' := by simpa using h
    cases rest with
    | nil => simp at hr
    | cons d after =>
      obtain rfl : d = '/' := by simpa using hr
      simp [Piece.text, hc, splitLine_append]
  · split
    · next h =>
      obtain ⟨hc, hr⟩ : c = '/' ∧ rest.head? = some '*' := by simpa using h
      cases rest with
      | nil => simp at hr
      | cons d after =>
        obtain rfl : d = '*' := by simpa using hr
        simp [Piece.text, hc, splitAfter_append]
    · split
      · simp [Piece.text, splitRaw_append]
      · split
        · simp [Piece.text]
        · split
          · simp [Piece.text, splitQuoted_append]
          · simp [Piece.text]

/-- A piece is not empty. -/
theorem text_nextPiece_ne_nil (word : List Char) (c : Char) (rest : List Char) :
    (nextPiece word c rest).1.text ≠ [] := by
  unfold nextPiece
  repeat' split
  all_goals simp [Piece.text]

/-- What follows a piece is shorter than the text. -/
theorem nextPiece_length (word : List Char) (c : Char) (rest : List Char) :
    (nextPiece word c rest).2.length < (c :: rest).length := by
  have h := congrArg List.length (nextPiece_append word c rest)
  have hpos := List.length_pos_iff.2 (text_nextPiece_ne_nil word c rest)
  rw [List.length_append] at h
  omega

/-- The pieces of a text that comes after the reversed word `word`. -/
def piecesAfter (word : List Char) : List Char → List Piece
  | [] => []
  | c :: rest =>
    (nextPiece word c rest).1 ::
      piecesAfter (wordAfter word (nextPiece word c rest).1) (nextPiece word c rest).2
termination_by cs => cs.length
decreasing_by exact nextPiece_length word c rest

/-- The pieces of a text. -/
def pieces (cs : List Char) : List Piece :=
  piecesAfter [] cs

/-- The pieces of a text make it up. -/
theorem flatMap_text_piecesAfter (word cs : List Char) :
    (piecesAfter word cs).flatMap Piece.text = cs := by
  fun_induction piecesAfter word cs with
  | case1 => rfl
  | case2 word c rest ih => simpa [ih] using nextPiece_append word c rest

/-- A line comment with the place of its slashes. -/
structure LineComment where
  offset : Nat
  /-- The text after the slashes. -/
  body : List Char
deriving DecidableEq, Repr

/-- The line comments among pieces that begin at an offset. -/
def lineCommentsFrom (offset : Nat) : List Piece → List LineComment
  | [] => []
  | piece :: rest =>
    let others := lineCommentsFrom (offset + Text.byteSize piece.text) rest
    match piece with
    | .lineComment body => { offset, body } :: others
    | _ => others

/-- A character with its offset in a text. -/
structure Located where
  offset : Nat
  char : Char
deriving DecidableEq, Repr

/-- The characters of a text that begins at an offset. -/
def locate (offset : Nat) : List Char → List Located
  | [] => []
  | c :: rest => { offset, char := c } :: locate (offset + c.utf8Size) rest

/-- The text of a routine, with the number of its first line. -/
structure Lambda where
  text : List Char
  firstLine : Nat := 1
deriving DecidableEq, Repr

namespace Lambda

/-- The routine with the given text, whose lines count from one. -/
def ofText (text : String) : Lambda where
  text := text.toList

/-- The routine with lines that count from the given number. -/
def startingAt (lambda : Lambda) (firstLine : Nat) : Lambda :=
  { lambda with firstLine }

/-- The text with comments and literals blanked out. -/
def masked (lambda : Lambda) : List Char :=
  (pieces lambda.text).flatMap Piece.masked

/-- The characters of the masked text with their offsets. -/
def code (lambda : Lambda) : List Located :=
  locate 0 lambda.masked

/-- All line comments in the order of the text. -/
def comments (lambda : Lambda) : List LineComment :=
  lineCommentsFrom 0 (pieces lambda.text)

/-- The line comments whose slashes stand in the range, its end excluded. -/
def commentsIn (lambda : Lambda) (start stop : Nat) : List LineComment :=
  lambda.comments.filter fun comment => start ≤ comment.offset && comment.offset < stop

/-- The line comments whose slashes stand outside the range, its end excluded. -/
def commentsOutside (lambda : Lambda) (start stop : Nat) : List LineComment :=
  lambda.comments.filter fun comment => !(start ≤ comment.offset && comment.offset < stop)

/-- The number of the line that holds the offset. -/
def lineOf (lambda : Lambda) (offset : Nat) : Nat :=
  lambda.firstLine +
    (locate 0 lambda.text).countP fun place => place.char = '\n' && place.offset < offset

end Lambda

/-- The change of the nesting depth by one character of code. -/
def depthStep (c : Char) : Int :=
  if c = '{' then 1 else if c = '}' then -1 else 0

/-- The change of the nesting depth by characters of code. -/
def depthOf : List Located → Int
  | [] => 0
  | place :: rest => depthStep place.char + depthOf rest

/-- The place of the brace that ends `depth` open blocks. -/
def closingBrace? (depth : Nat) : List Located → Option Nat
  | [] => none
  | place :: rest =>
    if place.char = '{' then closingBrace? (depth + 1) rest
    else if place.char = '}' then
      if depth ≤ 1 then some place.offset else closingBrace? (depth - 1) rest
    else closingBrace? depth rest

namespace Lambda

/-- The characters of code in the range, its end excluded. -/
def codeIn (lambda : Lambda) (start stop : Nat) : List Located :=
  lambda.code.filter fun place => start ≤ place.offset && place.offset < stop

/-- The change of the nesting depth over the range, its end excluded. -/
def depthChange (lambda : Lambda) (start stop : Nat) : Int :=
  depthOf (lambda.codeIn start stop)

/-- The place of the brace that closes the one at `opening`. -/
def matchingBrace? (lambda : Lambda) (opening : Nat) : Option Nat :=
  match lambda.code.dropWhile fun place => place.offset < opening with
  | place :: rest =>
    if place.offset = opening ∧ place.char = '{' then closingBrace? 1 rest else none
  | [] => none

end Lambda
end Snippet
end EpaperLayout
