/-!
# Lines of a text

A line ends with a line feed, which does not belong to it, nor does a carriage
return directly before that line feed.  A text that ends with a line feed has no
further empty line after it.
-/

namespace EpaperLayout
namespace Text

/-- The text without one carriage return at its end. -/
def dropReturn (line : List Char) : List Char :=
  if line.getLast? = some '\r' then line.dropLast else line

/-- Auxiliary form of `lines`: `line` holds, reversed, what was read of the current line. -/
def linesFrom (line : List Char) : List Char → List (List Char)
  | [] => if line.isEmpty then [] else [line.reverse]
  | c :: rest =>
    if c = '\n' then dropReturn line.reverse :: linesFrom [] rest
    else linesFrom (c :: line) rest

/-- The lines of a text without their line ends. -/
def lines (cs : List Char) : List (List Char) :=
  linesFrom [] cs

end Text
end EpaperLayout
