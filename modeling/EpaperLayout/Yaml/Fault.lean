/-!
# Marks and faults

A *mark* is a place in a YAML text: the number of characters before it, its line
and its column, all counted from zero.

A *fault* is the reason why a text has no value.  Nearly all faults have a mark,
which is where the text stops making sense rather than where the construct
around it begins.  The exceptions concern a text as a whole: that it has several
documents, or that its aliases stand for too much.
-/

namespace EpaperLayout
namespace Yaml

/-- A place in a text. -/
structure Mark where
  index : Nat := 0
  line : Nat := 0
  column : Nat := 0
deriving DecidableEq, Repr, Inhabited

namespace Mark

/-- The mark after `count` characters on the same line. -/
def forward (mark : Mark) (count : Nat) : Mark :=
  { mark with index := mark.index + count, column := mark.column + count }

/-- The mark after a line break of `width` characters. -/
def nextLine (mark : Mark) (width : Nat) : Mark where
  index := mark.index + width
  line := mark.line + 1

end Mark

/-- What is wrong with a text. -/
inductive Cause where
  | forbiddenCharacter
  | unexpectedCharacter
  | misplacedEntry
  | misplacedKey
  | misplacedValue
  | missingColon
  | directiveName
  | directiveLetters
  | unknownDirective
  | directiveEnd
  | versionNumber
  | versionPoint
  | versionLength
  | tagHandle
  | tagBlank
  | tagAddress
  | tagOctet
  | tagLeadingOctet
  | tagTrailingOctet
  | tagBracket
  | tagEnd
  | anchorName
  | zeroIndentation
  | blockHeader
  | tabInIndentation
  | documentMarkInQuotes
  | unterminatedQuotes
  | unknownEscape
  | escapeDigits
  | escapeValue
  | colonInPlain
  | undefinedHandle
  | missingContent
  | expectedEntry
  | expectedKey
  | expectedSequenceEnd
  | expectedMappingEnd
  | expectedDocument
  | repeatedVersion
  | unsupportedVersion
  | repeatedHandle
  | unknownAnchor
  | duplicateKey
  | unsuitedScalar (text expected : String)
  | integerRange (text : String)
  | nesting
  | expansion
  | severalDocuments
deriving DecidableEq, Repr

/-- The message for what is wrong. -/
def Cause.message : Cause → String
  | .forbiddenCharacter => "control characters are not allowed"
  | .unexpectedCharacter => "found character that cannot start any token"
  | .misplacedEntry => "block sequence entries are not allowed in this context"
  | .misplacedKey => "mapping keys are not allowed in this context"
  | .misplacedValue => "mapping values are not allowed in this context"
  | .missingColon => "could not find expected ':'"
  | .directiveName => "could not find expected directive name"
  | .directiveLetters => "found unexpected non-alphabetical character"
  | .unknownDirective => "found unknown directive name"
  | .directiveEnd => "did not find expected comment or line break"
  | .versionNumber => "did not find expected version number"
  | .versionPoint => "did not find expected digit or '.' character"
  | .versionLength => "found extremely long version number"
  | .tagHandle => "did not find expected '!'"
  | .tagBlank => "did not find expected whitespace"
  | .tagAddress => "did not find expected tag URI"
  | .tagOctet => "did not find URI escaped octet"
  | .tagLeadingOctet => "found an incorrect leading UTF-8 octet"
  | .tagTrailingOctet => "found an incorrect trailing UTF-8 octet"
  | .tagBracket => "did not find the expected '>'"
  | .tagEnd => "did not find expected whitespace or line break"
  | .anchorName => "did not find expected alphabetic or numeric character"
  | .zeroIndentation => "found an indentation indicator equal to 0"
  | .blockHeader => "did not find expected comment or line break"
  | .tabInIndentation => "found a tab character where an indentation space is expected"
  | .documentMarkInQuotes => "found unexpected document indicator"
  | .unterminatedQuotes => "found unexpected end of stream"
  | .unknownEscape => "found unknown escape character"
  | .escapeDigits => "did not find expected hexadecimal number"
  | .escapeValue => "found invalid Unicode character escape code"
  | .colonInPlain => "found unexpected ':'"
  | .undefinedHandle => "found undefined tag handle"
  | .missingContent => "did not find expected node content"
  | .expectedEntry => "did not find expected '-' indicator"
  | .expectedKey => "did not find expected key"
  | .expectedSequenceEnd => "did not find expected ',' or ']'"
  | .expectedMappingEnd => "did not find expected ',' or '\x7d'"
  | .expectedDocument => "did not find expected <document start>"
  | .repeatedVersion => "found duplicate %YAML directive"
  | .unsupportedVersion => "found incompatible YAML document"
  | .repeatedHandle => "found duplicate %TAG directive"
  | .unknownAnchor => "unknown anchor"
  | .duplicateKey => "duplicate entry in a mapping"
  | .unsuitedScalar text expected => s!"invalid value: {text}, expected {expected}"
  | .integerRange text => s!"invalid type: integer {text}, expected any YAML value"
  | .nesting => "recursion limit exceeded"
  | .expansion => "repetition limit exceeded"
  | .severalDocuments =>
    "deserializing from YAML containing more than one document is not supported"

/-- Why a text has no value. -/
structure Fault where
  cause : Cause
  mark : Option Mark
deriving DecidableEq, Repr

namespace Fault

/-- A fault at a mark. -/
def marked (mark : Mark) (cause : Cause) : Fault where
  cause := cause
  mark := some mark

/-- The message for a fault. -/
def message (fault : Fault) : String :=
  fault.cause.message

/-- The number of the line of a fault, counted from one. -/
def line? (fault : Fault) : Option Nat :=
  fault.mark.map fun mark => mark.line + 1

/-- The number of the column of a fault, counted from one. -/
def column? (fault : Fault) : Option Nat :=
  fault.mark.map fun mark => mark.column + 1

end Fault
end Yaml
end EpaperLayout
