import EpaperLayout.Text.Numeral
import EpaperLayout.Text.Visibility

/-!
# Quoted texts in messages

A message shows a text between double quotes so that every character of it can
be told: the quote and the backslash are escaped, five control characters have a
short escape, and any character without a shape of its own is written by its
code point in lower-case hexadecimal digits between braces.
-/

namespace EpaperLayout
namespace Text

/-- The way a quoted text shows one character. -/
def quotedChar (c : Char) : List Char :=
  if c = '"' then ['\\', '"']
  else if c = '\\' then ['\\', '\\']
  else if c = '\n' then ['\\', 'n']
  else if c = '\r' then ['\\', 'r']
  else if c = '\t' then ['\\', 't']
  else if c.toNat = 0 then ['\\', '0']
  else if isExtending c || !isPrintable c then
    ['\\', 'u', '{'] ++ lowerHex c.toNat ++ ['}']
  else [c]

/-- The text between double quotes. -/
def quoted (s : String) : String :=
  String.ofList ('"' :: s.toList.flatMap quotedChar ++ ['"'])

end Text
end EpaperLayout
