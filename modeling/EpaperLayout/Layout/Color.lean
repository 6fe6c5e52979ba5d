import EpaperLayout.Text.Blank
import EpaperLayout.Text.Numeral

/-!
# Colours

A colour has three channels of one byte.  Its written form is a number sign and
six upper-case hexadecimal digits; a reader also takes lower-case digits, blanks
around the text and a missing number sign.

A channel is read as an unsigned hexadecimal numeral of two characters, and such
a numeral may begin with a plus sign: `+F` is the channel value fifteen.
-/

namespace EpaperLayout

/-- A colour with a red, a green and a blue channel. -/
structure Color where
  red : UInt8
  green : UInt8
  blue : UInt8
deriving DecidableEq, Repr, Inhabited

namespace Color

/-- The three channels of a colour. -/
inductive Channel where
  | red
  | green
  | blue
deriving DecidableEq, Repr

/-- The name of a channel in messages. -/
def Channel.name : Channel → String
  | .red => "red"
  | .green => "green"
  | .blue => "blue"

/-- Why a text is not a colour. -/
inductive ReadError where
  /-- The text does not have six ASCII characters. -/
  | format (text : String)
  /-- The two characters of a channel are no hexadecimal numeral. -/
  | channel (which : Channel) (text : String)
deriving DecidableEq, Repr

/-- The message for a text that is not a colour. -/
def ReadError.message : ReadError → String
  | .format text => s!"Invalid hex color format '{text}'. Expected 6 hex digits (RRGGBB)"
  | .channel which text => s!"Invalid {which.name} channel in hex color '{text}'"

/-- A hexadecimal numeral of two characters, of which the first may be a plus sign. -/
def channelValue? (first second : Char) : Option UInt8 :=
  let digits := if first = '+' then [second] else [first, second]
  (Text.hexadecimal? digits).map UInt8.ofNat

/-- The text without one number sign at its start. -/
def dropNumberSign : List Char → List Char
  | '#' :: rest => rest
  | cs => cs

/-- Reads the six characters of a colour, channel by channel. -/
def ofSixChars (text : String) (r₁ r₂ g₁ g₂ b₁ b₂ : Char) : Except ReadError Color :=
  match channelValue? r₁ r₂ with
  | none => .error (.channel .red text)
  | some red =>
    match channelValue? g₁ g₂ with
    | none => .error (.channel .green text)
    | some green =>
      match channelValue? b₁ b₂ with
      | none => .error (.channel .blue text)
      | some blue => .ok { red, green, blue }

/-- Reads a colour from its written form. -/
def ofHex (s : String) : Except ReadError Color :=
  let digits := dropNumberSign (Text.trim s.toList)
  let text := String.ofList digits
  match digits with
  | [r₁, r₂, g₁, g₂, b₁, b₂] =>
    if digits.all fun c => c.toNat < 0x80 then ofSixChars text r₁ r₂ g₁ g₂ b₁ b₂
    else .error (.format text)
  | _ => .error (.format text)

/-- The written form: a number sign and six upper-case hexadecimal digits. -/
def toHex (color : Color) : String :=
  String.ofList ('#' ::
    (Text.hexByte color.red ++ Text.hexByte color.green ++ Text.hexByte color.blue))

/-- The expression that names the colour in a drawing routine. -/
def drawExpression (color : Color) : String :=
  s!"Color({color.red.toNat}, {color.green.toNat}, {color.blue.toNat})"

end Color
end EpaperLayout
