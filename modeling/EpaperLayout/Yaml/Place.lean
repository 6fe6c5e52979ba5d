import EpaperLayout.Text.Numeral
import EpaperLayout.Yaml.Fault

/-!
# The characters of a YAML text with their marks

A YAML text is read as a list of *places*: characters with their marks, in which
every line break is a single place.  A carriage return, a line feed, the two
together and the next line character are all read as a line feed; the line and
paragraph separators break lines too but stay what they are.
-/

namespace EpaperLayout
namespace Yaml

/-- A character of a text with its mark. -/
structure Place where
  char : Char
  mark : Mark
deriving DecidableEq, Repr

/-- The line separator and the paragraph separator. -/
def isSeparator (c : Char) : Bool :=
  c.toNat = 0x2028 || c.toNat = 0x2029

/-- A character that breaks a line. -/
def isBreak (c : Char) : Bool :=
  c = '\n' || c = '\r' || c.toNat = 0x85 || isSeparator c

/-- A space or a tabulator. -/
def isBlank (c : Char) : Bool :=
  c = ' ' || c = '\t'

/-- A blank or a line break. -/
def isGap (c : Char) : Bool :=
  isBlank c || isBreak c

/-- A character of anchors, directives and tag handles. -/
def isNameChar (c : Char) : Bool :=
  Text.isIdentifierChar c || c = '-'

/-- A bracket or comma of a collection in flow style. -/
def isFlowIndicator (c : Char) : Bool :=
  [',', '[', ']', '{', '}'].contains c

/-- A character that no YAML text holds, as such. -/
def isForbidden (c : Char) : Bool :=
  let n := c.toNat
  !(n = 0x09 || n = 0x0A || n = 0x0D || (0x20 ≤ n && n ≤ 0x7E) || n = 0x85
    || (0xA0 ≤ n && n ≤ 0xD7FF) || (0xE000 ≤ n && n ≤ 0xFFFD) || 0x10000 ≤ n)

/-- The byte order mark. -/
def isByteOrderMark (c : Char) : Bool :=
  c.toNat = 0xFEFF

/-- The places of a text that begins at a mark. -/
def placesFrom (mark : Mark) : List Char → List Place
  | [] => []
  | '\r' :: '\n' :: rest => { char := '\n', mark } :: placesFrom (mark.nextLine 2) rest
  | c :: rest =>
    if isSeparator c then { char := c, mark } :: placesFrom (mark.nextLine 1) rest
    else if isBreak c then { char := '\n', mark } :: placesFrom (mark.nextLine 1) rest
    else { char := c, mark } :: placesFrom (mark.forward 1) rest

/-- The mark at the end of a text that begins at a mark. -/
def markAfter (mark : Mark) : List Char → Mark
  | [] => mark
  | '\r' :: '\n' :: rest => markAfter (mark.nextLine 2) rest
  | c :: rest =>
    if isBreak c then markAfter (mark.nextLine 1) rest else markAfter (mark.forward 1) rest

/-- The mark of the first place; `stop` if there is none. -/
def here (stop : Mark) : List Place → Mark
  | [] => stop
  | place :: _ => place.mark

/-- The characters of places. -/
def chars (places : List Place) : List Char :=
  places.map Place.char

/-- The first character. -/
def head? (places : List Place) : Option Char :=
  places.head?.map Place.char

/-- Whether the places begin with the given character. -/
def startsWith (c : Char) (places : List Place) : Bool :=
  head? places == some c

/-- Whether the places begin with a blank. -/
def startsBlank (places : List Place) : Bool :=
  (head? places).any isBlank

/-- Whether the places begin with a line break or are at their end. -/
def endsLine (places : List Place) : Bool :=
  (head? places).all isBreak

/-- Whether the places begin with a blank or a line break or are at their end. -/
def endsWord (places : List Place) : Bool :=
  (head? places).all isGap

/-- The longest part at the start whose characters all satisfy the test. -/
def span (test : Char → Bool) (places : List Place) : List Char :=
  chars (places.takeWhile fun place => test place.char)

/-- The places after the longest part at the start whose characters all satisfy the test. -/
def afterSpan (test : Char → Bool) (places : List Place) : List Place :=
  places.dropWhile fun place => test place.char

/-- The places after blanks and a comment. -/
def skipComment (places : List Place) : List Place :=
  let rest := afterSpan isBlank places
  if startsWith '#' rest then afterSpan (fun c => !isBreak c) rest else rest

/-- Whether the places begin with the mark of a document's start or end, at the start of a line. -/
def startsDocumentMark (places : List Place) : Bool :=
  match places with
  | a :: b :: c :: rest =>
    a.mark.column = 0 && a.char = b.char && b.char = c.char && (a.char = '-' || a.char = '.')
      && endsWord rest
  | _ => false

/-- The places after a longest part are no more than all places. -/
theorem afterSpan_length (test : Char → Bool) (places : List Place) :
    (afterSpan test places).length ≤ places.length :=
  (List.dropWhile_sublist _).length_le

end Yaml
end EpaperLayout
