import EpaperLayout.Text.Utf8
import EpaperLayout.Yaml.Folding

/-!
# Tokens of a YAML text

A token is a mark of structure, a property of a node, a scalar or a directive.
This module has the tokens and reads those that are neither marks of structure
nor scalars: anchors, aliases, tags and directives.

**Tags.** A tag is written with a *handle* and a *suffix*; directives say what a
handle stands for.  A tag in angle brackets and the lone exclamation mark have an
empty handle, and the suffix is the whole tag.  Tags are addresses and may hold
octets of UTF-8 in percent form, so they are kept as bytes.
-/

namespace EpaperLayout
namespace Yaml

/-- A tag as it is written. -/
structure WrittenTag where
  /-- The handle; empty if the suffix is the whole tag. -/
  handle : String
  suffix : List UInt8
deriving DecidableEq, Repr

/-- What a token says. -/
inductive TokenKind where
  | version (major minor : Nat)
  /-- A handle and the start of the tags that it stands for. -/
  | handle (name : String) (expansion : List UInt8)
  | documentStart
  | documentEnd
  | blockSequenceStart
  | blockMappingStart
  | blockEnd
  | flowSequenceStart
  | flowSequenceEnd
  | flowMappingStart
  | flowMappingEnd
  | blockEntry
  | flowEntry
  | key
  | value
  | alias (name : String)
  | anchor (name : String)
  | tag (written : WrittenTag)
  | scalar (text : String) (plain : Bool)
  | streamEnd
deriving DecidableEq, Repr

/-- A token with the mark where it begins. -/
structure Token where
  kind : TokenKind
  mark : Mark
deriving DecidableEq, Repr

/-- A character that may follow a name without a gap. -/
def followsName (c : Char) : Bool :=
  ['?', ':', ',', ']', '}', '%', '@', '\x60'].contains c

/-- Reads the name of an anchor or alias. -/
def readName (stop : Mark) (places : List Place) : Except Fault (String × List Place) :=
  let name := span isNameChar places
  let rest := afterSpan isNameChar places
  if name.isEmpty || !(endsWord rest || (head? rest).any followsName) then
    refuse stop rest .anchorName
  else .ok (String.ofList name, rest)

/-- A character of a tag as it is written; brackets and commas only where they cannot be meant as
structure. -/
def isAddressChar (brackets : Bool) (c : Char) : Bool :=
  isNameChar c
    || [';', '/', '?', ':', '@', '&', '=', '+', '$', '.', '!', '~', '*', '\'', '(', ')'].contains c
    || (brackets && [',', '[', ']'].contains c)

/-- The number of octets that an octet begins; zero if it begins none. -/
def octetWidth (octet : Nat) : Nat :=
  if octet < 0x80 then 1
  else if 0xC0 ≤ octet ∧ octet < 0xE0 then 2
  else if 0xE0 ≤ octet ∧ octet < 0xF0 then 3
  else if 0xF0 ≤ octet ∧ octet < 0xF8 then 4
  else 0

/-- The octet of two hexadecimal digits. -/
def octet? (high low : Char) : Option Nat := do
  return (← Text.hexValue? high) * 16 + (← Text.hexValue? low)

/-- Reads the bytes of a tag after those in `bytes`, which are reversed; `pending` octets of a
character are still to come. -/
def readAddress (stop : Mark) (brackets : Bool) (pending : Nat) (bytes : List UInt8) :
    List Place → Except Fault (List UInt8 × List Place)
  | [] => if pending = 0 then .ok (bytes.reverse, []) else refuse stop [] .tagOctet
  | place :: rest =>
    if place.char = '%' then
      match rest with
      | high :: low :: following =>
        match octet? high.char low.char with
        | none => refuse stop (place :: rest) .tagOctet
        | some octet =>
          if pending = 0 then
            match octetWidth octet with
            | 0 => refuse stop (place :: rest) .tagLeadingOctet
            | more + 1 => readAddress stop brackets more (UInt8.ofNat octet :: bytes) following
          else if octet / 64 = 2 then
            readAddress stop brackets (pending - 1) (UInt8.ofNat octet :: bytes) following
          else refuse stop (place :: rest) .tagTrailingOctet
      | _ => refuse stop (place :: rest) .tagOctet
    else if pending ≠ 0 then refuse stop (place :: rest) .tagOctet
    else if isAddressChar brackets place.char then
      readAddress stop brackets 0 ((String.utf8EncodeChar place.char).reverse ++ bytes) rest
    else .ok (bytes.reverse, place :: rest)

/-- Reads the bytes of a tag, of which there must be one at least. -/
def readSomeAddress (stop : Mark) (brackets : Bool) (places : List Place) :
    Except Fault (List UInt8 × List Place) := do
  let (bytes, rest) ← readAddress stop brackets 0 [] places
  if rest.length = places.length then refuse stop rest .tagAddress
  return (bytes, rest)

/-- The bytes before the first zero. -/
def beforeZero (bytes : List UInt8) : List UInt8 :=
  bytes.takeWhile (· ≠ 0)

/-- Reads a tag in angle brackets. -/
def readVerbatimTag (stop : Mark) (places : List Place) :
    Except Fault (WrittenTag × List Place) := do
  let (bytes, rest) ← readSomeAddress stop true (places.drop 2)
  if !startsWith '>' rest then refuse stop rest .tagBracket
  return ({ handle := "", suffix := beforeZero bytes }, rest.drop 1)

/-- Reads a tag with a handle. -/
def readHandledTag (stop : Mark) (places : List Place) :
    Except Fault (WrittenTag × List Place) := do
  let name := span isNameChar (places.drop 1)
  let afterName := afterSpan isNameChar (places.drop 1)
  if startsWith '!' afterName then
    let (bytes, rest) ← readSomeAddress stop false (afterName.drop 1)
    let handle := String.ofList ('!' :: name ++ ['!'])
    return ({ handle, suffix := beforeZero bytes }, rest)
  else
    let (bytes, rest) ← readAddress stop false 0 [] afterName
    let suffix := beforeZero (Text.encode name ++ bytes)
    return (if suffix.isEmpty then { handle := "", suffix := Text.encode ['!'] }
      else { handle := "!", suffix }, rest)

/-- Reads a tag, which in a flow collection a comma may follow. -/
def readTag (stop : Mark) (flow : Bool) (places : List Place) :
    Except Fault (WrittenTag × List Place) := do
  let (tag, rest) ←
    if startsWith '<' (places.drop 1) then readVerbatimTag stop places
    else readHandledTag stop places
  if !endsWord rest && !(flow && startsWith ',' rest) then refuse stop rest .tagEnd
  return (tag, rest)

/-- Reads one of the two numbers of a version. -/
def readVersionNumber (stop : Mark) (places : List Place) : Except Fault (Nat × List Place) :=
  let digits := span Text.isDigit places
  if digits.isEmpty then refuse stop places .versionNumber
  else if 9 < digits.length then refuse stop (places.drop 9) .versionLength
  else .ok (Text.ofDigits 10 (digits.map Text.digitValue), afterSpan Text.isDigit places)

/-- Reads the version in a directive. -/
def readVersion (stop : Mark) (places : List Place) : Except Fault (TokenKind × List Place) := do
  let (major, afterMajor) ← readVersionNumber stop (afterSpan isBlank places)
  if !startsWith '.' afterMajor then refuse stop afterMajor .versionPoint
  let (minor, rest) ← readVersionNumber stop (afterMajor.drop 1)
  return (.version major minor, rest)

/-- Reads the handle and its meaning in a directive. -/
def readHandle (stop : Mark) (places : List Place) : Except Fault (TokenKind × List Place) := do
  let start := afterSpan isBlank places
  if !startsWith '!' start then refuse stop start .tagHandle
  let name := span isNameChar (start.drop 1)
  let afterName := afterSpan isNameChar (start.drop 1)
  let closed := startsWith '!' afterName
  if !closed && !name.isEmpty then refuse stop afterName .tagHandle
  let afterHandle := if closed then afterName.drop 1 else afterName
  if !startsBlank afterHandle then refuse stop afterHandle .tagBlank
  let (bytes, rest) ← readSomeAddress stop true (afterSpan isBlank afterHandle)
  if !endsWord rest then refuse stop rest .tagEnd
  let handle := '!' :: name ++ if closed then ['!'] else []
  return (.handle (String.ofList handle) (beforeZero bytes), rest)

/-- Reads a directive after its percent sign, and the line that it stands on. -/
def readDirective (stop : Mark) (places : List Place) :
    Except Fault (TokenKind × List Place) := do
  let name := span isNameChar places
  let afterName := afterSpan isNameChar places
  if name.isEmpty then refuse stop places .directiveName
  if !endsWord afterName then refuse stop afterName .directiveLetters
  let (kind, afterValue) ←
    if name = "YAML".toList then readVersion stop afterName
    else if name = "TAG".toList then readHandle stop afterName
    else refuse stop afterName .unknownDirective
  let lineEnd := skipComment afterValue
  if !endsLine lineEnd then refuse stop lineEnd .directiveEnd
  return (kind, lineEnd.drop 1)

end Yaml
end EpaperLayout
