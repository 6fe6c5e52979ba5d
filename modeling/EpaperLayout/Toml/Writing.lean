import EpaperLayout.Text.Numeral

/-!
# Writing TOML strings

A string is written in the simplest form that shows it without escapes: between
double quotes, between single quotes, or in the long forms with three quotes.
A string that needs escapes in any case is written between double quotes, or in
the long form with double quotes if it has several lines.
-/

namespace EpaperLayout
namespace Toml

/-- What a text holds that matters for its form. -/
structure Features where
  /-- A control character other than the tabulator and the line feed. -/
  control : Bool
  backslash : Bool
  newline : Bool
  /-- The longest run of single quotes. -/
  singleQuotes : Nat
  /-- The longest run of double quotes. -/
  doubleQuotes : Nat
deriving DecidableEq, Repr

/-- The length of the longest run of a character, after a run of length `run`. -/
def longestRun (c : Char) (run : Nat) : List Char → Nat
  | [] => run
  | d :: rest =>
    if d = c then longestRun c (run + 1) rest else max run (longestRun c 0 rest)

/-- Whether a character is only written with an escape. -/
def needsEscape (c : Char) : Bool :=
  (c.toNat < 0x20 && c ≠ '\t' && c ≠ '\n') || c.toNat = 0x7F

/-- What the text holds. -/
def Features.of (cs : List Char) : Features where
  control := cs.any needsEscape
  backslash := cs.contains '\\'
  newline := cs.contains '\n'
  singleQuotes := longestRun '\'' 0 cs
  doubleQuotes := longestRun '"' 0 cs

/-- The forms of a string. -/
inductive StringForm where
  | basic
  | literal
  | longBasic
  | longLiteral
deriving DecidableEq, Repr

/-- The form in which a text is written. -/
def Features.form (f : Features) : StringForm :=
  if !f.control && !f.backslash && f.doubleQuotes = 0 && !f.newline then .basic
  else if !f.control && f.singleQuotes = 0 && !f.newline then .literal
  else if !f.control && !f.backslash && f.doubleQuotes ≤ 2 then .longBasic
  else if !f.control && f.singleQuotes ≤ 2 then .longLiteral
  else if f.newline then .longBasic
  else .basic

/-- A character other than the double quote between double quotes. -/
def escapeChar (long : Bool) (c : Char) : List Char :=
  if c = '\\' then ['\\', '\\']
  else if c = '\n' then if long then ['\n'] else ['\\', 'n']
  else if c = '\t' then ['\\', 't']
  else if c = '\r' then ['\\', 'r']
  else if c.toNat = 0x08 then ['\\', 'b']
  else if c.toNat = 0x0C then ['\\', 'f']
  else if needsEscape c then ['\\', 'u'] ++ (Text.paddedDigits 16 4 c.toNat).map Text.upperDigit
  else [c]

/-- A text between double quotes, of which `allowed` may stand next to each other unescaped and
`run` just did. -/
def escapeFrom (long : Bool) (allowed run : Nat) : List Char → List Char
  | [] => []
  | c :: rest =>
    if c = '"' then
      if run < allowed then '"' :: escapeFrom long allowed (run + 1) rest
      else '\\' :: '"' :: escapeFrom long allowed 0 rest
    else escapeChar long c ++ escapeFrom long allowed 0 rest

/-- The written form of a string. -/
def writeString (text : String) : String :=
  let cs := text.toList
  match (Features.of cs).form with
  | .basic => String.ofList ('"' :: escapeFrom false 0 0 cs ++ ['"'])
  | .literal => s!"'{text}'"
  | .longBasic => "\"\"\"\n" ++ String.ofList (escapeFrom true 2 0 cs) ++ "\"\"\""
  | .longLiteral => s!"'''\n{text}'''"

end Toml
end EpaperLayout
