import EpaperLayout.Text.Blank
import EpaperLayout.Text.Numeral
import EpaperLayout.Text.Utf8

/-!
# Escaping of free text

Free text stands in a snippet between double quotes, both in comments and in
string literals.  The escaped form never holds a line break, an unescaped quote
or a backslash that escapes what follows the text.

**Escapes.** The backslash, the quote, the line feed, the carriage return and the
tabulator have a letter of their own.  All other control characters, and every
character that a document takes for a line break or refuses, are written byte by
byte with three octal digits.

**Reading back.** An octal escape has one to three digits, as many as there are,
and stands for a byte.  The bytes of the whole text must be well-formed UTF-8.
-/

namespace EpaperLayout
namespace Snippet

/-- The characters that are written byte by byte, those with a letter of their own aside. -/
def needsOctal (c : Char) : Bool :=
  Text.isControl c || c.toNat == 0x2028 || c.toNat == 0x2029 || c.toNat == 0xFEFF
    || c.toNat == 0xFFFE || c.toNat == 0xFFFF

/-- The escape of one character. -/
def escapeChar (c : Char) : List Char :=
  if c = '\\' then ['\\', '\\']
  else if c = '"' then ['\\', '"']
  else if c = '\n' then ['\\', 'n']
  else if c = '\r' then ['\\', 'r']
  else if c = '\t' then ['\\', 't']
  else if needsOctal c then
    (String.utf8EncodeChar c).flatMap fun byte => '\\' :: Text.octalByte byte
  else [c]

/-- The escaped form of a text. -/
def escapeChars (cs : List Char) : List Char :=
  cs.flatMap escapeChar

/-- The escaped form of a text. -/
def escape (s : String) : String :=
  String.ofList (escapeChars s.toList)

/-- The text as a string literal of a program. -/
def stringLiteral (s : String) : String :=
  String.ofList ('"' :: escapeChars s.toList ++ ['"'])

/-- Why an escaped text cannot be read back. -/
inductive EscapeError where
  /-- An octal escape of more than eight bits. -/
  | octalOutOfRange (value : Nat)
  | unknownEscape (c : Char)
  | danglingBackslash
  | invalidUtf8
deriving DecidableEq, Repr

/-- The message for an escaped text that cannot be read back. -/
def EscapeError.message : EscapeError → String
  | .octalOutOfRange value =>
    String.ofList ("octal escape \\".toList ++ Text.octal value ++ " out of range".toList)
  | .unknownEscape c => String.ofList ("unknown escape '\\".toList ++ [c, '\''])
  | .danglingBackslash => "dangling backslash"
  | .invalidUtf8 => "escaped bytes are not valid UTF-8"

/-- The character that a backslash and the given letter stand for. -/
def letterEscape? (c : Char) : Option Char :=
  if c = '\\' then some '\\'
  else if c = '"' then some '"'
  else if c = 'n' then some '\n'
  else if c = 'r' then some '\r'
  else if c = 't' then some '\t'
  else none

/-- The octal digits at the start of a text, at most `count`, and what follows them. -/
def takeOctal : (count : Nat) → List Char → List Char × List Char
  | count + 1, c :: rest =>
    if Text.isOctalDigit c then
      let (digits, after) := takeOctal count rest
      (c :: digits, after)
    else ([], c :: rest)
  | _, cs => ([], cs)

/-- What follows the octal digits is no longer than the text. -/
theorem takeOctal_length (count : Nat) (cs : List Char) :
    (takeOctal count cs).2.length ≤ cs.length := by
  induction count generalizing cs with
  | zero => simp [takeOctal]
  | succ count ih =>
    cases cs with
    | nil => simp [takeOctal]
    | cons c rest =>
      by_cases h : Text.isOctalDigit c = true
      · simpa [takeOctal, h] using Nat.le_succ_of_le (ih rest)
      · simp [takeOctal, h]

/-- The byte that octal digits write. -/
def octalValue (digits : List Char) : Except EscapeError UInt8 :=
  let value := Text.ofDigits 8 (digits.map Text.digitValue)
  if value < 256 then .ok (UInt8.ofNat value) else .error (.octalOutOfRange value)

/-- The bytes that an escaped text stands for. -/
def unescapeBytes : List Char → Except EscapeError (List UInt8)
  | [] => .ok []
  | c :: rest =>
    if c ≠ '\\' then do
      let bytes ← unescapeBytes rest
      return String.utf8EncodeChar c ++ bytes
    else
      match rest with
      | [] => .error .danglingBackslash
      | d :: after =>
        match letterEscape? d with
        | some e => do
          let bytes ← unescapeBytes after
          return String.utf8EncodeChar e ++ bytes
        | none =>
          if Text.isOctalDigit d then do
            let byte ← octalValue (d :: (takeOctal 2 after).1)
            let bytes ← unescapeBytes (takeOctal 2 after).2
            return byte :: bytes
          else .error (.unknownEscape d)
termination_by cs => cs.length
decreasing_by
  · simp
  · simp only [List.length_cons]; omega
  · have := takeOctal_length 2 after
    simp only [List.length_cons]; omega

/-- The text that an escaped text stands for. -/
def unescapeChars (cs : List Char) : Except EscapeError (List Char) := do
  let bytes ← unescapeBytes cs
  match Text.decode? bytes with
  | some text => return text
  | none => throw .invalidUtf8

/-- The text that an escaped text stands for. -/
def unescape (s : String) : Except EscapeError String :=
  (unescapeChars s.toList).map String.ofList

end Snippet
end EpaperLayout
