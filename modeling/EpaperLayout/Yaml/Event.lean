import EpaperLayout.Yaml.TokenStream

/-!
# The events of a YAML document

Events are the content of a document in the order of the text: scalars, aliases
and the two ends of every collection.  They no longer show how anything was
written, except that a scalar tells whether it is plain.

**Anchors.** An anchored node has a number, and an alias refers to a number.  A
new anchor gets the number of different names so far, so that an anchor that is
defined again can take over the number of another one; of several nodes with the
same number the last one counts.

**Missing nodes.** An item, key or value with nothing to it is an empty plain
scalar.

**Recursion.** The functions recurse on a number that exceeds every chain of
calls; `EventStream.ofTokens` supplies it from the number of tokens.
-/

namespace EpaperLayout
namespace Yaml

/-- What a node is besides its content. -/
structure Properties where
  /-- The number of its anchor. -/
  anchor : Option Nat := none
  tag : Option (List UInt8) := none
  mark : Mark
deriving DecidableEq, Repr

/-- A piece of the content of a document. -/
inductive Event where
  | alias (anchor : Nat) (mark : Mark)
  | scalar (properties : Properties) (text : String) (plain : Bool)
  | sequenceStart (properties : Properties)
  | sequenceEnd
  | mappingStart (properties : Properties)
  | mappingEnd
deriving DecidableEq, Repr

/-- The reader of events at work. -/
structure EventReader where
  tokens : List Token
  /-- The fault where the tokens end. -/
  fault : Option Fault
  handles : List (String × List UInt8) := []
  /-- The names of anchors with their numbers, the latest first. -/
  anchors : List (String × Nat) := []
  events : Array Event := #[]
deriving Repr

/-- Reading that may end with a fault; the events before it are kept. -/
abbrev Reading :=
  ExceptT Fault (StateM EventReader)

namespace EventReader

/-- The next token. -/
def peek : Reading Token := do
  let reader ← get
  match reader.tokens with
  | token :: _ => return token
  | [] => throw (reader.fault.getD (.marked {} .expectedDocument))

/-- Goes on behind the next token. -/
def skip : Reading Unit :=
  modify fun reader => { reader with tokens := reader.tokens.drop 1 }

/-- Adds an event. -/
def emit (event : Event) : Reading Unit :=
  modify fun reader => { reader with events := reader.events.push event }

/-- Adds a missing node. -/
def emitMissing (mark : Mark) : Reading Unit :=
  emit (.scalar { mark } "" true)

/-- The meanings of handles without a directive. -/
def defaultHandles : List (String × List UInt8) :=
  [("!", Text.encode ['!']), ("!!", Text.encode "tag:yaml.org,2002:".toList)]

/-- The tag that is written. -/
def expand (mark : Mark) (written : WrittenTag) : Reading (List UInt8) := do
  if written.handle.isEmpty then return written.suffix
  match ((← get).handles ++ defaultHandles).lookup written.handle with
  | some start => return start ++ written.suffix
  | none => throw (.marked mark .undefinedHandle)

/-- The number of an anchor that is defined here. -/
def define (name : String) : Reading Nat := do
  let anchors := (← get).anchors
  let number := (anchors.map Prod.fst).eraseDups.length
  modify fun reader => { reader with anchors := (name, number) :: anchors }
  return number

/-- Reads an anchor, if one stands here. -/
def anchorName? : Reading (Option String) := do
  match (← peek).kind with
  | .anchor name =>
    skip
    return some name
  | _ => return none

/-- Reads a tag and its mark, if one stands here. -/
def writtenTag? : Reading (Option (WrittenTag × Mark)) := do
  let token ← peek
  match token.kind with
  | .tag written =>
    skip
    return some (written, token.mark)
  | _ => return none

/-- The properties of a node before its anchor has a number. -/
structure NodeStart where
  anchor : Option String
  tag : Option (List UInt8)
  mark : Mark

/-- Reads the anchor and the tag of a node, in either order. -/
def nodeStart : Reading NodeStart := do
  let mark := (← peek).mark
  let early ← anchorName?
  let written ← writtenTag?
  let late ← if early.isNone && written.isSome then anchorName? else pure none
  let _ ← peek
  let tag ← written.mapM fun (written, mark) => expand mark written
  return { anchor := early.or late, tag, mark }

/-- The properties of a node that begins like this. -/
def NodeStart.define (start : NodeStart) : Reading Properties := do
  let anchor ← start.anchor.mapM EventReader.define
  return { anchor, tag := start.tag, mark := start.mark }

/-- The tag of a scalar: a lone exclamation mark is none. -/
def NodeStart.withoutLoneMark (start : NodeStart) : NodeStart :=
  if start.tag = some (Text.encode ['!']) then { start with tag := none } else start

/-- Whether no item or pair can begin with the token in a block. -/
def endsBlockNode (kind : TokenKind) : Bool :=
  kind = .key || kind = .value || kind = .blockEnd

mutual

/-- Reads a node; `block` tells whether it may be a block, and `indentless` whether it may be a
sequence that is not indented. -/
def node (calls : Nat) (block indentless : Bool) : Reading Unit :=
  match calls with
  | 0 => pure ()
  | calls + 1 => do
    let first ← peek
    match first.kind with
    | .alias name =>
      skip
      match (← get).anchors.lookup name with
      | some anchor => emit (.alias anchor first.mark)
      | none => throw (.marked first.mark .unknownAnchor)
    | _ =>
      let start ← nodeStart
      let token ← peek
      match token.kind, block, indentless with
      | .blockEntry, _, true =>
        emit (.sequenceStart (← start.define))
        unindentedItems calls
      | .scalar text plain, _, _ =>
        emit (.scalar (← start.withoutLoneMark.define) text plain)
        skip
      | .flowSequenceStart, _, _ =>
        emit (.sequenceStart (← start.define))
        skip
        flowItems calls true
      | .flowMappingStart, _, _ =>
        emit (.mappingStart (← start.define))
        skip
        flowPairs calls true
      | .blockSequenceStart, true, _ =>
        emit (.sequenceStart (← start.define))
        skip
        blockItems calls
      | .blockMappingStart, true, _ =>
        emit (.mappingStart (← start.define))
        skip
        blockPairs calls
      | _, _, _ =>
        if start.anchor.isSome || start.tag.isSome then
          emit (.scalar (← start.define) "" true)
        else throw (.marked token.mark .missingContent)

/-- Reads the items of a block sequence. -/
def blockItems (calls : Nat) : Reading Unit :=
  match calls with
  | 0 => pure ()
  | calls + 1 => do
    let token ← peek
    match token.kind with
    | .blockEntry =>
      skip
      let next ← peek
      if next.kind = .blockEntry || next.kind = .blockEnd then emitMissing next.mark
      else node calls true false
      blockItems calls
    | .blockEnd =>
      emit .sequenceEnd
      skip
    | _ => throw (.marked token.mark .expectedEntry)

/-- Reads the items of a sequence that is not indented. -/
def unindentedItems (calls : Nat) : Reading Unit :=
  match calls with
  | 0 => pure ()
  | calls + 1 => do
    let token ← peek
    match token.kind with
    | .blockEntry =>
      skip
      let next ← peek
      if next.kind = .blockEntry || endsBlockNode next.kind then emitMissing next.mark
      else node calls true false
      unindentedItems calls
    | _ => emit .sequenceEnd

/-- Reads a key or a value in a block mapping. -/
def blockMember (calls : Nat) : Reading Unit :=
  match calls with
  | 0 => pure ()
  | calls + 1 => do
    let next ← peek
    if endsBlockNode next.kind then emitMissing next.mark else node calls true true

/-- Reads the pairs of a block mapping. -/
def blockPairs (calls : Nat) : Reading Unit :=
  match calls with
  | 0 => pure ()
  | calls + 1 => do
    let token ← peek
    match token.kind with
    | .key =>
      skip
      blockMember calls
      let next ← peek
      if next.kind = .value then
        skip
        blockMember calls
      else emitMissing next.mark
      blockPairs calls
    | .blockEnd =>
      emit .mappingEnd
      skip
    | _ => throw (.marked token.mark .expectedKey)

/-- Reads the value of a pair in a flow collection that ends with the given token. -/
def flowValue (calls : Nat) (closing : TokenKind) : Reading Unit :=
  match calls with
  | 0 => pure ()
  | calls + 1 => do
    let token ← peek
    if token.kind = .value then
      skip
      let next ← peek
      if next.kind = .flowEntry || next.kind = closing then emitMissing next.mark
      else node calls false false
    else emitMissing token.mark

/-- Reads the items of a flow sequence; `first` tells that none came before. -/
def flowItems (calls : Nat) (first : Bool) : Reading Unit :=
  match calls with
  | 0 => pure ()
  | calls + 1 => do
    let before ← peek
    if !first && before.kind ≠ .flowSequenceEnd then
      if before.kind = .flowEntry then skip
      else throw (.marked before.mark .expectedSequenceEnd)
    let token ← peek
    match token.kind with
    | .flowSequenceEnd =>
      emit .sequenceEnd
      skip
    | .key =>
      emit (.mappingStart { mark := token.mark })
      skip
      let next ← peek
      if next.kind = .value || next.kind = .flowEntry || next.kind = .flowSequenceEnd then
        skip
        emitMissing next.mark
      else node calls false false
      flowValue calls .flowSequenceEnd
      let _ ← peek
      emit .mappingEnd
      flowItems calls false
    | _ =>
      node calls false false
      flowItems calls false

/-- Reads the pairs of a flow mapping; `first` tells that none came before. -/
def flowPairs (calls : Nat) (first : Bool) : Reading Unit :=
  match calls with
  | 0 => pure ()
  | calls + 1 => do
    let before ← peek
    if !first && before.kind ≠ .flowMappingEnd then
      if before.kind = .flowEntry then skip
      else throw (.marked before.mark .expectedMappingEnd)
    let token ← peek
    match token.kind with
    | .flowMappingEnd =>
      emit .mappingEnd
      skip
    | .key =>
      skip
      let next ← peek
      if next.kind = .value || next.kind = .flowEntry || next.kind = .flowMappingEnd then
        emitMissing next.mark
      else node calls false false
      flowValue calls .flowMappingEnd
      flowPairs calls false
    | _ =>
      node calls false false
      emitMissing (← peek).mark
      flowPairs calls false

end

/-- Reads the directives of a document; `versioned` tells that one of them gave the version. -/
def directives (calls : Nat) (versioned : Bool) : Reading Unit :=
  match calls with
  | 0 => pure ()
  | calls + 1 => do
    let token ← peek
    match token.kind with
    | .version major minor =>
      if versioned then throw (.marked token.mark .repeatedVersion)
      if major ≠ 1 || (minor ≠ 1 && minor ≠ 2) then
        throw (.marked token.mark .unsupportedVersion)
      skip
      directives calls true
    | .handle name expansion =>
      if ((← get).handles.lookup name).isSome then throw (.marked token.mark .repeatedHandle)
      modify fun reader => { reader with handles := reader.handles ++ [(name, expansion)] }
      skip
      directives calls versioned
    | _ => pure ()

/-- Whether a document ends before the token. -/
def endsDocument : TokenKind → Bool
  | .version .. | .handle .. | .documentStart | .documentEnd | .streamEnd => true
  | _ => false

/-- Reads the content of a document after its start. -/
def content (calls : Nat) : Reading Unit := do
  let token ← peek
  if endsDocument token.kind then emitMissing token.mark else node calls true false

/-- Reads the first document, if there is one. -/
def document (calls : Nat) : Reading Unit := do
  let first ← peek
  match first.kind with
  | .streamEnd => return
  | .version .. | .handle .. | .documentStart =>
    directives calls false
    let start ← peek
    if start.kind ≠ .documentStart then throw (.marked start.mark .expectedDocument)
    skip
    content calls
  | _ => node calls true false
  if (← peek).kind = .documentEnd then skip

end EventReader

/-- The events of the first document. -/
structure EventStream where
  events : List Event
  /-- The fault where the events end too early. -/
  fault : Option Fault
  /-- Whether anything comes after the document. -/
  continued : Bool
deriving Repr

/-- The events of the first document among tokens. -/
def EventStream.ofTokens (stream : TokenStream) : EventStream :=
  let calls := 3 * stream.tokens.length + 3
  let (result, reader) :=
    (EventReader.document calls).run { tokens := stream.tokens, fault := stream.fault }
  let remaining := reader.tokens.dropWhile fun token => token.kind = .documentEnd
  { events := reader.events.toList
    fault := match result with
      | .ok () => none
      | .error fault => some fault
    continued := (remaining.head?.map Token.kind) ≠ some .streamEnd }

end Yaml
end EpaperLayout
