import EpaperLayout.Yaml.Folding

/-!
# Block scalars

A block scalar begins with a header: a bar for literal or an angle bracket for
folded text, then in either order a digit for the indentation and a sign for the
line breaks at the end.  Its lines follow, each behind the indentation.

**Indentation.** Without a digit, the widest of the leading blank lines and of
the first line with text decides, but it is at least one column deeper than the
block around.  Only spaces indent; a tabulator there is refused.

**Folding.** In folded text a single line feed between two lines that do not
begin with a blank becomes a space.

**End.** By default the break after the last line stays and blank lines after it
are dropped; a minus drops them all and a plus keeps them all.

**Results.** What follows the blank lines is no longer than the text.
-/

namespace EpaperLayout
namespace Yaml

/-- What happens to the line breaks at the end of a block scalar. -/
inductive Chomping where
  | strip
  | clip
  | keep
deriving DecidableEq, Repr

/-- The header of a block scalar. -/
structure BlockHeader where
  chomping : Chomping := .clip
  /-- The indentation relative to the block around. -/
  depth : Option Nat := none
deriving DecidableEq, Repr

namespace BlockHeader

/-- Reads the sign for the line breaks, if there is one. -/
def readChomping (header : BlockHeader) (places : List Place) : BlockHeader × List Place :=
  if startsWith '+' places then ({ header with chomping := .keep }, places.drop 1)
  else if startsWith '-' places then ({ header with chomping := .strip }, places.drop 1)
  else (header, places)

/-- Reads the digit for the indentation, if there is one. -/
def readDepth (stop : Mark) (header : BlockHeader) (places : List Place) :
    Except Fault (BlockHeader × List Place) :=
  match head? places with
  | some c =>
    if c = '0' then refuse stop places .zeroIndentation
    else if Text.isDigit c then
      .ok ({ header with depth := some (Text.digitValue c) }, places.drop 1)
    else .ok (header, places)
  | none => .ok (header, places)

/-- Reads the sign and the digit in either order. -/
def read (stop : Mark) (places : List Place) : Except Fault (BlockHeader × List Place) :=
  if startsWith '+' places || startsWith '-' places then
    let (header, rest) := readChomping {} places
    readDepth stop header rest
  else do
    let (header, rest) ← readDepth stop {} places
    return if header.depth.isSome then readChomping header rest else (header, rest)

end BlockHeader

/-- Whether the column is still in the indentation. -/
def inIndentation (indent : Option Nat) (column : Nat) : Bool :=
  match indent with
  | some width => column < width
  | none => true

/-- Blank lines that have been read. -/
structure BlankLines where
  breaks : List Char := []
  /-- The greatest column reached behind their spaces and those of the line that follows. -/
  widest : Nat := 0
  rest : List Place
deriving Repr

/-- The spaces of the indentation that stand here. -/
def indentation (indent : Option Nat) (places : List Place) : List Place :=
  places.takeWhile fun place => place.char = ' ' && inIndentation indent place.mark.column

/-- The places after the spaces of the indentation. -/
def afterIndentation (indent : Option Nat) (places : List Place) : List Place :=
  places.dropWhile fun place => place.char = ' ' && inIndentation indent place.mark.column

/-- Reads blank lines and the indentation of the line that follows, after `lines`. -/
def readBlankLines (stop : Mark) (indent : Option Nat) (breaks : List Char) (widest : Nat)
    (places : List Place) : Except Fault BlankLines :=
  let rest := afterIndentation indent places
  let column := (here stop rest).column
  if startsWith '\t' rest && inIndentation indent column then refuse stop rest .tabInIndentation
  else
    match _h : rest with
    | [] => .ok { breaks, widest := max widest column, rest := [] }
    | place :: following =>
      if isBreak place.char then
        readBlankLines stop indent (breaks ++ [place.char]) (max widest column) following
      else .ok { breaks, widest := max widest column, rest := place :: following }
termination_by places.length
decreasing_by
  have hle : (afterIndentation indent places).length ≤ places.length :=
    (List.dropWhile_sublist _).length_le
  have heq : afterIndentation indent places = place :: following := _h
  rw [heq, List.length_cons] at hle
  omega

/-- What follows blank lines is no longer than the text. -/
theorem readBlankLines_length {stop : Mark} {indent : Option Nat} {breaks : List Char}
    {widest : Nat} {places : List Place} {lines : BlankLines}
    (h : readBlankLines stop indent breaks widest places = .ok lines) :
    lines.rest.length ≤ places.length := by
  have hle (ps : List Place) : (afterIndentation indent ps).length ≤ ps.length :=
    (List.dropWhile_sublist _).length_le
  fun_induction readBlankLines stop indent breaks widest places with
  | case1 => simp [refuse] at h
  | case2 =>
    simp only [Except.ok.injEq] at h
    simp [← h]
  | case3 breaks widest places rest column _ place following heq _ ih =>
    have hlen := congrArg List.length heq
    have := hle places
    have := ih h
    simp only [rest, List.length_cons] at hlen
    omega
  | case4 breaks widest places rest column _ place following heq _ =>
    have hlen := congrArg List.length heq
    have := hle places
    simp only [Except.ok.injEq] at h
    simp only [rest] at hlen
    simp only [← h]
    omega

/-- The lines of a block scalar that have been read. -/
structure BlockLines where
  text : List Char := []
  /-- The break at the end of the last line. -/
  ending : List Char := []
  /-- The breaks of the blank lines after it. -/
  trailing : List Char := []
  /-- Whether the last line begins with a blank. -/
  startsBlank : Bool := false
deriving Repr

/-- The text with the breaks before one more line. -/
def BlockLines.joined (lines : BlockLines) (folded nextStartsBlank : Bool) : List Char :=
  if folded && lines.ending = ['\n'] && !lines.startsBlank && !nextStartsBlank then
    lines.text ++ (if lines.trailing.isEmpty then [' '] else []) ++ lines.trailing
  else lines.text ++ lines.ending ++ lines.trailing

/-- The text with the breaks at its end as the header wants them. -/
def BlockLines.chomped (lines : BlockLines) : Chomping → List Char
  | .strip => lines.text
  | .clip => lines.text ++ lines.ending
  | .keep => lines.text ++ lines.ending ++ lines.trailing

/-- Reads the lines of a block scalar at the column `indent`, after others. -/
def readBlockLines (stop : Mark) (folded : Bool) (indent : Nat) (lines : BlockLines)
    (places : List Place) : Except Fault (BlockLines × List Place) :=
  match places with
  | [] => .ok (lines, [])
  | place :: others =>
    if place.mark.column ≠ indent then .ok (lines, place :: others)
    else
      let blank := isBlank place.char
      let line := span (fun c => !isBreak c) others
      let text := lines.joined folded blank ++ place.char :: line
      match _h : afterSpan (fun c => !isBreak c) others with
      | [] => .ok ({ text, startsBlank := blank }, [])
      | ending :: following =>
        match _hblank : readBlankLines stop (some indent) [] 0 following with
        | .error fault => .error fault
        | .ok blanks =>
          readBlockLines stop folded indent
            { text, ending := [ending.char], trailing := blanks.breaks, startsBlank := blank }
            blanks.rest
termination_by places.length
decreasing_by
  have hspan := afterSpan_length (fun c => !isBreak c) others
  have hrest := readBlankLines_length _hblank
  rw [_h, List.length_cons] at hspan
  simp only [List.length_cons]
  omega

/-- The text of a block scalar after its first character, and what follows it; `parent` is the
column of the block around, `-1` if there is none. -/
def readBlockScalar (stop : Mark) (folded : Bool) (parent : Int) (places : List Place) :
    Except Fault (List Char × List Place) := do
  let (header, afterHeader) ← BlockHeader.read stop places
  let lineEnd := skipComment afterHeader
  if !endsLine lineEnd then refuse stop lineEnd .blockHeader
  else
    let content := lineEnd.drop 1
    let given := header.depth.map fun depth => (max parent 0).toNat + depth
    let blanks ← readBlankLines stop given [] 0 content
    let indent := given.getD (max (max blanks.widest (parent + 1).toNat) 1)
    let (lines, rest) ← readBlockLines stop folded indent { trailing := blanks.breaks } blanks.rest
    return (lines.chomped header.chomping, rest)

end Yaml
end EpaperLayout
