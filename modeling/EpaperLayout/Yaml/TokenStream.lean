import EpaperLayout.Yaml.BlockScalar
import EpaperLayout.Yaml.Token

/-!
# The tokens of a YAML text

The scanner takes one token after the other from the text.  Two things make its
work depend on what came before.

**Indentation.** In block style a column deeper than that of the innermost block
opens a block where a collection begins, and a column less deep closes blocks.

**Simple keys.** Whether a scalar, a collection or a property is a key shows only
at the colon after it.  So the scanner remembers for every level of brackets
where a key may have begun; at the colon it inserts the mark of the key, and of
the mapping that the key opens, at the remembered place.  Such a place is
forgotten at the end of the line and after 1024 characters; it is *required*, and
then a colon must follow, where nothing but a key can stand in the block.

**Faults.** The tokens before a fault count as far as no later colon could have
changed them.
-/

namespace EpaperLayout
namespace Yaml

/-- A place where a key may have begun. -/
structure PossibleKey where
  /-- The number of tokens before it. -/
  index : Nat
  mark : Mark
  required : Bool
deriving DecidableEq, Repr

/-- The longest text of a simple key. -/
def keyLimit : Nat := 1024

/-- Whether a key that began here can no longer be followed by its colon at the mark. -/
def PossibleKey.isStale (key : PossibleKey) (mark : Mark) : Bool :=
  key.mark.line < mark.line || key.mark.index + keyLimit < mark.index

/-- A scanner at work. -/
structure Scanner where
  rest : List Place
  tokens : Array Token := #[]
  /-- The columns of the open blocks, the innermost first. -/
  indents : List Nat := []
  /-- The possible key on the present level of brackets. -/
  key : Option PossibleKey := none
  /-- The possible keys on the levels around, the innermost first. -/
  outerKeys : List (Option PossibleKey) := []
  /-- Whether a key can begin at the next token. -/
  keyAllowed : Bool := true
  finished : Bool := false
deriving Repr

/-- The first place after blanks, comments and line breaks, and whether a key can begin there.  A
byte order mark at the start of a line is passed over. -/
def skipFiller (flow keyAllowed inComment : Bool) : List Place → Bool × List Place
  | [] => (keyAllowed, [])
  | place :: rest =>
    if isBreak place.char then skipFiller flow (keyAllowed || !flow) false rest
    else if inComment || place.char = '#' then skipFiller flow keyAllowed true rest
    else if place.char = ' ' || (place.char = '\t' && (flow || !keyAllowed))
        || (isByteOrderMark place.char && place.mark.column = 0) then
      skipFiller flow keyAllowed false rest
    else (keyAllowed, place :: rest)

namespace Scanner

/-- Whether the scanner is inside brackets. -/
def flow (s : Scanner) : Bool :=
  !s.outerKeys.isEmpty

/-- The column of the innermost block. -/
def indent (s : Scanner) : Int :=
  match s.indents with
  | column :: _ => column
  | [] => -1

/-- The possible keys of all levels. -/
def possibleKeys (s : Scanner) : List PossibleKey :=
  (s.key :: s.outerKeys).filterMap id

/-- Adds a token that begins here and ends before `rest`. -/
def emit (s : Scanner) (stop : Mark) (kind : TokenKind) (rest : List Place) : Scanner :=
  { s with tokens := s.tokens.push { kind, mark := here stop s.rest }, rest }

/-- Forgets the possible key of the present level. -/
def dropKey (s : Scanner) (stop : Mark) : Except Fault Scanner :=
  if s.key.any PossibleKey.required then refuse stop s.rest .missingColon
  else .ok { s with key := none }

/-- Remembers that a key may begin here. -/
def saveKey (s : Scanner) (stop : Mark) : Except Fault Scanner := do
  if !s.keyAllowed then return s
  let mark := here stop s.rest
  let required := !s.flow && s.indent = mark.column
  let cleared ← s.dropKey stop
  return { cleared with key := some { index := s.tokens.size, mark, required } }

/-- Forgets all possible keys that are stale here. -/
def dropStaleKeys (s : Scanner) (stop : Mark) : Except Fault Scanner :=
  let mark := here stop s.rest
  if s.possibleKeys.any fun key => key.required && key.isStale mark then
    refuse stop s.rest .missingColon
  else
    let fresh := Option.filter fun key : PossibleKey => !key.isStale mark
    .ok { s with key := fresh s.key, outerKeys := s.outerKeys.map fresh }

/-- Opens a block collection at a column, if it is deeper than the innermost block; its token is
put behind `index` others. -/
def openBlock (s : Scanner) (kind : TokenKind) (mark : Mark) (index : Nat) : Scanner :=
  if s.flow || (mark.column : Int) ≤ s.indent then s
  else
    { s with
      indents := mark.column :: s.indents
      tokens := s.tokens.insertIdxIfInBounds index { kind, mark } }

/-- Closes the blocks deeper than the column. -/
def closeBlocks (s : Scanner) (mark : Mark) (column : Int) : Scanner :=
  if s.flow then s
  else
    let closed := s.indents.takeWhile fun (indent : Nat) => column < indent
    { s with
      indents := s.indents.drop closed.length
      tokens := s.tokens ++ Array.replicate closed.length { kind := .blockEnd, mark } }

/-- Takes the end of the text, which counts as the start of a line. -/
def takeEnd (s : Scanner) (stop : Mark) : Except Fault Scanner := do
  let mark := if stop.column = 0 then stop else { stop with line := stop.line + 1, column := 0 }
  let cleared ← (s.closeBlocks mark (-1)).dropKey mark
  let ended := cleared.emit mark .streamEnd []
  return { ended with keyAllowed := false, finished := true }

/-- Takes a directive. -/
def takeDirective (s : Scanner) (stop : Mark) : Except Fault Scanner := do
  let closed ← (s.closeBlocks (here stop s.rest) (-1)).dropKey stop
  let (kind, rest) ← readDirective stop (s.rest.drop 1)
  return { closed.emit stop kind rest with keyAllowed := false }

/-- Takes the mark of a document's start or end. -/
def takeDocumentMark (s : Scanner) (stop : Mark) : Except Fault Scanner := do
  let closed ← (s.closeBlocks (here stop s.rest) (-1)).dropKey stop
  let kind := if startsWith '-' s.rest then TokenKind.documentStart else .documentEnd
  return { closed.emit stop kind (s.rest.drop 3) with keyAllowed := false }

/-- Takes an opening bracket. -/
def takeOpening (s : Scanner) (stop : Mark) (kind : TokenKind) : Except Fault Scanner := do
  let saved ← s.saveKey stop
  return { saved.emit stop kind (s.rest.drop 1) with
    key := none, outerKeys := saved.key :: saved.outerKeys, keyAllowed := true }

/-- Takes a closing bracket. -/
def takeClosing (s : Scanner) (stop : Mark) (kind : TokenKind) : Except Fault Scanner := do
  let cleared ← s.dropKey stop
  let outside := match cleared.outerKeys with
    | key :: outer => { cleared with key, outerKeys := outer }
    | [] => cleared
  return { outside.emit stop kind (s.rest.drop 1) with keyAllowed := false }

/-- Takes a comma. -/
def takeComma (s : Scanner) (stop : Mark) : Except Fault Scanner := do
  let cleared ← s.dropKey stop
  return { cleared.emit stop .flowEntry (s.rest.drop 1) with keyAllowed := true }

/-- Takes the dash of an item. -/
def takeDash (s : Scanner) (stop : Mark) : Except Fault Scanner := do
  if !s.flow && !s.keyAllowed then refuse stop s.rest .misplacedEntry
  let opened := s.openBlock .blockSequenceStart (here stop s.rest) s.tokens.size
  let cleared ← opened.dropKey stop
  return { cleared.emit stop .blockEntry (s.rest.drop 1) with keyAllowed := true }

/-- Takes the question mark of a key. -/
def takeQuestion (s : Scanner) (stop : Mark) : Except Fault Scanner := do
  if !s.flow && !s.keyAllowed then refuse stop s.rest .misplacedKey
  let opened := s.openBlock .blockMappingStart (here stop s.rest) s.tokens.size
  let cleared ← opened.dropKey stop
  return { cleared.emit stop .key (s.rest.drop 1) with keyAllowed := !s.flow }

/-- Takes the colon of a value, which makes a key of what began at the place remembered. -/
def takeColon (s : Scanner) (stop : Mark) : Except Fault Scanner := do
  match s.key with
  | some key =>
    let marked := { s with
      tokens := s.tokens.insertIdxIfInBounds key.index { kind := .key, mark := key.mark } }
    let opened := marked.openBlock .blockMappingStart key.mark key.index
    return { opened.emit stop .value (s.rest.drop 1) with key := none, keyAllowed := false }
  | none =>
    if !s.flow && !s.keyAllowed then refuse stop s.rest .misplacedValue
    let opened := s.openBlock .blockMappingStart (here stop s.rest) s.tokens.size
    return { opened.emit stop .value (s.rest.drop 1) with keyAllowed := !s.flow }

/-- Takes an anchor or an alias. -/
def takeName (s : Scanner) (stop : Mark) (kind : String → TokenKind) :
    Except Fault Scanner := do
  let saved ← s.saveKey stop
  let (name, rest) ← readName stop (s.rest.drop 1)
  return { saved.emit stop (kind name) rest with keyAllowed := false }

/-- Takes a tag. -/
def takeTag (s : Scanner) (stop : Mark) : Except Fault Scanner := do
  let saved ← s.saveKey stop
  let (tag, rest) ← readTag stop s.flow s.rest
  return { saved.emit stop (.tag tag) rest with keyAllowed := false }

/-- Takes a block scalar. -/
def takeBlockScalar (s : Scanner) (stop : Mark) (folded : Bool) : Except Fault Scanner := do
  let cleared ← s.dropKey stop
  let (text, rest) ← readBlockScalar stop folded s.indent (s.rest.drop 1)
  let scalar := TokenKind.scalar (String.ofList text) false
  return { cleared.emit stop scalar rest with keyAllowed := true }

/-- Takes a quoted scalar. -/
def takeQuoted (s : Scanner) (stop : Mark) (quote : Char) : Except Fault Scanner := do
  let saved ← s.saveKey stop
  let (text, rest) ← readQuoted stop quote (s.rest.drop 1)
  let scalar := TokenKind.scalar (String.ofList text) false
  return { saved.emit stop scalar rest with keyAllowed := false }

/-- Takes a plain scalar. -/
def takePlain (s : Scanner) (stop : Mark) : Except Fault Scanner := do
  let saved ← s.saveKey stop
  let reading ← readPlain stop s.flow (s.indent + 1) s.rest
  let scalar := TokenKind.scalar (String.ofList reading.text) true
  return { saved.emit stop scalar reading.rest with keyAllowed := reading.endsLine }

/-- A character that begins no plain scalar by itself. -/
def isIndicator (c : Char) : Bool :=
  isFlowIndicator c
    || ['-', '?', ':', '#', '&', '*', '!', '|', '>', '\'', '"', '%', '@', '\x60'].contains c

/-- Whether a plain scalar can begin with the character, `after` following it. -/
def startsPlain (flow : Bool) (c : Char) (after : List Place) : Bool :=
  !(isGap c || isIndicator c)
    || (c = '-' && !startsBlank after)
    || (!flow && (c = '?' || c = ':') && !endsWord after)

/-- Takes the token that begins with the character `c`, `after` following it. -/
def takeToken (s : Scanner) (stop : Mark) (c : Char) (after : List Place) :
    Except Fault Scanner :=
  if c = '%' && (here stop s.rest).column = 0 then s.takeDirective stop
  else if startsDocumentMark s.rest then s.takeDocumentMark stop
  else if c = '[' then s.takeOpening stop .flowSequenceStart
  else if c = '{' then s.takeOpening stop .flowMappingStart
  else if c = ']' then s.takeClosing stop .flowSequenceEnd
  else if c = '}' then s.takeClosing stop .flowMappingEnd
  else if c = ',' then s.takeComma stop
  else if c = '-' && endsWord after then s.takeDash stop
  else if c = '?' && (s.flow || endsWord after) then s.takeQuestion stop
  else if c = ':' && (s.flow || endsWord after) then s.takeColon stop
  else if c = '*' then s.takeName stop .alias
  else if c = '&' then s.takeName stop .anchor
  else if c = '!' then s.takeTag stop
  else if (c = '|' || c = '>') && !s.flow then s.takeBlockScalar stop (c = '>')
  else if c = '\'' || c = '"' then s.takeQuoted stop c
  else if startsPlain s.flow c after then s.takePlain stop
  else refuse stop s.rest .unexpectedCharacter

/-- Takes one more token. -/
def step (s : Scanner) (stop : Mark) : Except Fault Scanner := do
  let (keyAllowed, rest) := skipFiller s.flow s.keyAllowed false s.rest
  let fresh ← { s with keyAllowed, rest }.dropStaleKeys stop
  let mark := here stop rest
  let ready := fresh.closeBlocks mark mark.column
  match rest with
  | [] => ready.takeEnd stop
  | place :: after =>
    let taken ← ready.takeToken stop place.char after
    taken.dropStaleKeys stop

/-- The tokens that no later colon can change. -/
def settled (s : Scanner) : List Token :=
  s.possibleKeys.foldl (fun tokens key => tokens.take key.index) s.tokens.toList

end Scanner

/-- The tokens of a text, up to its end or a fault. -/
structure TokenStream where
  tokens : List Token
  fault : Option Fault
deriving Repr

namespace TokenStream

/-- The tokens that a scanner takes in the given number of steps. -/
def scan (stop : Mark) : (steps : Nat) → Scanner → TokenStream
  | 0, s => { tokens := s.tokens.toList, fault := none }
  | steps + 1, s =>
    match s.step stop with
    | .error fault => { tokens := s.settled, fault := some fault }
    | .ok next =>
      if next.finished then { tokens := next.tokens.toList, fault := none }
      else scan stop steps next

/-- The text without a byte order mark. -/
def dropByteOrderMark : List Char → List Char
  | c :: rest => if isByteOrderMark c then rest else c :: rest
  | [] => []

/-- The tokens of a text.  Every step takes a character at least, and one more takes the end. -/
def ofText (text : String) : TokenStream :=
  let cs := dropByteOrderMark text.toList
  if cs.any isForbidden then
    { tokens := [], fault := some (.marked {} .forbiddenCharacter) }
  else scan (markAfter {} cs) (cs.length + 1) { rest := placesFrom {} cs }

end TokenStream
end Yaml
end EpaperLayout
