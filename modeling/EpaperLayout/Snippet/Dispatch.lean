import EpaperLayout.Snippet.Generation
import EpaperLayout.Snippet.Lambda
import EpaperLayout.Text.Word

/-!
# The page dispatch of a drawing routine

The *dispatch* is the first place in the code where a switch on the page variable
opens.  Its *labels* are all places in its block of the form `case N:` or
`default:`; a label at which no inner block is open starts a *branch*, which
reaches to the next such label or to the end of the dispatch.

Words of the code count only as whole words, and blanks of any script may stand
between its tokens.  The number of a label may be written with digits of any
script, but only ASCII digits give it a value.
-/

namespace EpaperLayout
namespace Snippet

/-- The places from the first that is no blank. -/
def skipBlanks (places : List Located) : List Located :=
  places.dropWhile fun place => Text.isBlank place.char

/-- The places after the given word, if they begin with it. -/
def afterWord? : (word : List Char) → List Located → Option (List Located)
  | [], places => some places
  | _ :: _, [] => none
  | c :: word, place :: rest => if place.char = c then afterWord? word rest else none

/-- The places after the given tokens, if they begin with them; blanks may stand before each. -/
def afterTokens? : (tokens : List (List Char)) → List Located → Option (List Located)
  | [], places => some places
  | token :: tokens, places =>
    match afterWord? token (skipBlanks places) with
    | some rest => afterTokens? tokens rest
    | none => none

/-- Whether a word can begin after the character. -/
def allowsWord : Option Char → Bool
  | some c => !Text.isWordChar c
  | none => true

/-- The tokens of a dispatch between its first word and its opening brace. -/
def dispatchTokens : List (List Char) :=
  [['('], "id".toList, ['('], pageVariable.toList, [')'], [')']]

/-- The place of the brace that opens a dispatch beginning here. -/
def dispatchBrace? (places : List Located) : Option Nat := do
  let afterSwitch ← afterWord? "switch".toList places
  let afterHead ← afterTokens? dispatchTokens afterSwitch
  match skipBlanks afterHead with
  | place :: _ => if place.char = '{' then some place.offset else none
  | [] => none

/-- A dispatch: where it begins and where its block opens. -/
structure Dispatch where
  start : Nat
  opening : Nat
deriving DecidableEq, Repr

/-- The first dispatch among places that follow the character `previous`. -/
def findDispatch? (previous : Option Char) : List Located → Option Dispatch
  | [] => none
  | place :: rest =>
    match if allowsWord previous then dispatchBrace? (place :: rest) else none with
    | some opening => some { start := place.offset, opening }
    | none => findDispatch? (some place.char) rest

/-- The first dispatch of a routine. -/
def Lambda.dispatch? (lambda : Lambda) : Option Dispatch :=
  findDispatch? none lambda.code

/-- A label inside a dispatch. -/
structure Label where
  /-- The digits of a page label; nothing for the label of all other pages. -/
  digits : Option (List Char)
  start : Nat
  /-- The place after the colon. -/
  stop : Nat
deriving DecidableEq, Repr

/-- The place after the colon that follows here. -/
def afterColon? (places : List Located) : Option Nat :=
  match skipBlanks places with
  | place :: _ => if place.char = ':' then some (place.offset + 1) else none
  | [] => none

/-- The number and the end of a page label beginning here. -/
def pageLabel? (places : List Located) : Option (List Char × Nat) :=
  match afterWord? "case".toList places with
  | some (blank :: rest) =>
    if Text.isBlank blank.char then
      let number := skipBlanks rest
      let digits := (number.takeWhile fun place => Text.isAnyDigit place.char).map Located.char
      if digits.isEmpty then none
      else (afterColon? (number.drop digits.length)).map fun stop => (digits, stop)
    else none
  | _ => none

/-- The end of a label for all other pages beginning here. -/
def defaultLabel? (places : List Located) : Option Nat :=
  (afterWord? "default".toList places).bind afterColon?

/-- The label that begins at the first of the places. -/
def labelAt? : List Located → Option Label
  | [] => none
  | place :: rest =>
    match pageLabel? (place :: rest) with
    | some (digits, stop) => some { digits := some digits, start := place.offset, stop }
    | none =>
      (defaultLabel? (place :: rest)).map fun stop =>
        { digits := none, start := place.offset, stop }

/-- All labels among places that follow the character `previous`. -/
def labelsAfter (previous : Option Char) : List Located → List Label
  | [] => []
  | place :: rest =>
    let others := labelsAfter (some place.char) rest
    match if allowsWord previous then labelAt? (place :: rest) else none with
    | some label => label :: others
    | none => others

/-- All labels in a range of a routine, its end excluded. -/
def Lambda.labelsIn (lambda : Lambda) (start stop : Nat) : List Label :=
  labelsAfter none (lambda.codeIn start stop)

/-- The labels in a range at which as many blocks are open as at its start. -/
def Lambda.branchLabels (lambda : Lambda) (start stop : Nat) : List Label :=
  (lambda.labelsIn start stop).filter fun label => lambda.depthChange start label.start = 0

/-- A branch of a dispatch: its label and the end of its body, which begins after the label. -/
structure Branch where
  label : Label
  stop : Nat
deriving DecidableEq, Repr

/-- Branches that reach from each label to the next, the last one to `stop`. -/
def branchesOf (stop : Nat) : List Label → List Branch
  | [] => []
  | [label] => [{ label, stop }]
  | label :: next :: rest => { label, stop := next.start } :: branchesOf stop (next :: rest)

/-- The branches of a dispatch whose block closes at `closing`. -/
def Lambda.branches (lambda : Lambda) (dispatch : Dispatch) (closing : Nat) : List Branch :=
  branchesOf closing (lambda.branchLabels (dispatch.opening + 1) closing)

end Snippet
end EpaperLayout
