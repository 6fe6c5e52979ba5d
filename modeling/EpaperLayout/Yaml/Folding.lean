import EpaperLayout.Yaml.Place

/-!
# Plain and quoted scalars

A scalar in flow style consists of words with *gaps* between them.  A gap is a
run of blanks and line breaks.  Without a line break it stands for itself; with
line breaks its blanks are dropped, a single line feed becomes a space, and of
more line breaks the first is dropped if it is a line feed.

**Plain scalars** end before a comment, before a colon that ends a word, in flow
collections before an indicator, at the mark of a document, and before a line
that is not indented deeper than the block around it.

**Quoted scalars** end with their quote.  Between single quotes only the doubled
quote is special; between double quotes a backslash begins an escape, and before
a line break it joins the lines without a space.

**Results.** What follows a word is no longer than the text.
-/

namespace EpaperLayout
namespace Yaml

/-- The fault at the first of the places. -/
def refuse {α : Type} (stop : Mark) (places : List Place) (cause : Cause) : Except Fault α :=
  .error (.marked (here stop places) cause)

/-- What a gap between two words of a scalar stands for. -/
def foldGap (gap : List Char) : List Char :=
  match gap.filter isBreak with
  | [] => gap
  | ['\n'] => [' ']
  | '\n' :: more => more
  | breaks => breaks

/-- What is read of a plain scalar. -/
structure PlainReading where
  text : List Char
  /-- Whether the scalar is followed by a line break. -/
  endsLine : Bool
  rest : List Place
deriving Repr

/-- Whether a colon stands here that must not be part of a plain scalar. -/
def refusesColon (flow : Bool) (places : List Place) : Bool :=
  match places with
  | place :: next :: _ => flow && place.char = ':' && (isFlowIndicator next.char || next.char = '?')
  | _ => false

/-- Whether a word of a plain scalar ends here. -/
def endsPlainWord (flow : Bool) (places : List Place) : Bool :=
  match places with
  | [] => true
  | place :: rest =>
    isGap place.char || (place.char = ':' && endsWord rest)
      || (flow && isFlowIndicator place.char)

/-- The word of a plain scalar that stands here, and what follows it. -/
def splitPlainWord (flow : Bool) : List Place → List Char × List Place
  | [] => ([], [])
  | place :: rest =>
    if refusesColon flow (place :: rest) || endsPlainWord flow (place :: rest) then
      ([], place :: rest)
    else
      let (word, following) := splitPlainWord flow rest
      (place.char :: word, following)

/-- The tabulator that stands before the indentation in one of the lines after a gap's first. -/
def misplacedTab? (indent : Int) (gap : List Place) : Option Place :=
  (gap.dropWhile fun place => !isBreak place.char).find? fun place =>
    place.char = '\t' && (place.mark.column : Int) < indent

/-- What follows a word is no longer than the text. -/
theorem splitPlainWord_length (flow : Bool) (places : List Place) :
    (splitPlainWord flow places).2.length ≤ places.length := by
  fun_induction splitPlainWord flow places <;> simp_all; omega

/-- The rest of a plain scalar in a block whose content has at least the column `indent`, after
the text read so far and a gap. -/
def readPlainAfter (stop : Mark) (flow : Bool) (indent : Int) (text gap : List Char)
    (places : List Place) : Except Fault PlainReading :=
  if startsDocumentMark places || startsWith '#' places then
    .ok { text, endsLine := gap.any isBreak, rest := places }
  else
    match _hsplit : splitPlainWord flow places with
    | (word, following) =>
      if refusesColon flow following then refuse stop following .colonInPlain
      else
        let joined := if word.isEmpty then text else text ++ foldGap gap ++ word
        match _hgap : following.takeWhile fun place => isGap place.char with
        | [] =>
          .ok { text := joined, endsLine := word.isEmpty && gap.any isBreak, rest := following }
        | first :: others =>
          let rest := afterSpan isGap following
          match misplacedTab? indent (first :: others) with
          | some tab => .error (.marked tab.mark .tabInIndentation)
          | none =>
            if !flow && ((here stop rest).column : Int) < indent then
              .ok { text := joined, endsLine := (chars (first :: others)).any isBreak, rest }
            else readPlainAfter stop flow indent joined (chars (first :: others)) rest
termination_by places.length
decreasing_by
  have hword : following.length ≤ places.length := by
    simpa [_hsplit] using splitPlainWord_length flow places
  have hlength := congrArg List.length (List.takeWhile_append_dropWhile
    (p := fun place : Place => isGap place.char) (l := following))
  rw [List.length_append, _hgap, List.length_cons] at hlength
  simp only [afterSpan]
  omega

/-- The plain scalar that stands here. -/
def readPlain (stop : Mark) (flow : Bool) (indent : Int) (places : List Place) :
    Except Fault PlainReading :=
  readPlainAfter stop flow indent [] [] places

/-- What an escape with a single letter stands for. -/
def letterEscape? (c : Char) : Option Char :=
  [('0', '\x00'), ('a', '\x07'), ('b', '\x08'), ('t', '\t'), ('\t', '\t'), ('n', '\n'),
    ('v', '\x0B'), ('f', '\x0C'), ('r', '\r'), ('e', '\x1B'), (' ', ' '), ('"', '"'), ('/', '/'),
    ('\\', '\\'), ('N', '\u0085'), ('_', '\u00A0'), ('L', '\u2028'), ('P', '\u2029')].lookup c

/-- The number of digits of an escape that names a code point. -/
def escapeWidth? (c : Char) : Option Nat :=
  [('x', 2), ('u', 4), ('U', 8)].lookup c

/-- The character that an escape with digits names. -/
def readCodePoint (stop : Mark) (width : Nat) (places : List Place) : Except Fault Char :=
  let digits := chars (places.take width)
  if digits.length < width || !digits.all Text.isHexDigit then refuse stop places .escapeDigits
  else
    let value := (Text.hexadecimal? digits).getD 0
    if value.isValidChar then .ok (Char.ofNat value) else refuse stop places .escapeValue

/-- A gap of a quoted scalar. -/
structure QuotedGap where
  chars : List Char := []
  /-- Whether the gap comes after an escaped line break. -/
  escaped : Bool := false
deriving Repr

/-- What a gap of a quoted scalar stands for. -/
def QuotedGap.folded (gap : QuotedGap) : List Char :=
  if gap.escaped then gap.chars.filter isBreak else foldGap gap.chars

/-- The rest of a quoted scalar after the text read so far and a gap. -/
def readQuotedAfter (stop : Mark) (quote : Char) (text : List Char) (gap : QuotedGap)
    (places : List Place) : Except Fault (List Char × List Place) :=
  match places with
  | [] => refuse stop [] .unterminatedQuotes
  | place :: rest =>
    let joined := text ++ gap.folded
    if startsDocumentMark (place :: rest) then
      refuse stop (place :: rest) .documentMarkInQuotes
    else if isGap place.char then
      readQuotedAfter stop quote text { gap with chars := gap.chars ++ [place.char] } rest
    else if place.char = quote then
      if quote = '\'' && startsWith '\'' rest then
        readQuotedAfter stop quote (joined ++ ['\'']) {} (rest.drop 1)
      else .ok (joined, rest)
    else if quote = '"' && place.char = '\\' then
      match rest with
      | [] => refuse stop (place :: rest) .unknownEscape
      | letter :: after =>
        if isBreak letter.char then readQuotedAfter stop quote joined { escaped := true } after
        else
          match letterEscape? letter.char, escapeWidth? letter.char with
          | some c, _ => readQuotedAfter stop quote (joined ++ [c]) {} after
          | none, some width =>
            match readCodePoint stop width after with
            | .ok c => readQuotedAfter stop quote (joined ++ [c]) {} (after.drop width)
            | .error fault => .error fault
          | none, none => refuse stop (place :: rest) .unknownEscape
    else readQuotedAfter stop quote (joined ++ [place.char]) {} rest
termination_by places.length

/-- The text of a quoted scalar after its opening quote, and what follows it. -/
def readQuoted (stop : Mark) (quote : Char) (places : List Place) :
    Except Fault (List Char × List Place) :=
  readQuotedAfter stop quote [] {} places

end Yaml
end EpaperLayout
