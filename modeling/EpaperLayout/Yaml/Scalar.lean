import EpaperLayout.Decimal.Nearest
import EpaperLayout.Text.Numeral
import EpaperLayout.Text.Utf8
import EpaperLayout.Yaml.Value

/-!
# The values of scalars

A plain scalar without a tag is null, a truth value, a whole number or a double
if its text has the form of one, and else a string.

**Whole numbers** are decimal, or have one of the prefixes `0x`, `0o` and `0b`
after their sign.  A number with a superfluous leading zero is a string.  Numbers
of more than 64 bits are refused as long as they fit 128 bits; decimal ones
beyond that are doubles.

**Doubles** have a point or an exponent, and their value must be finite; the
words for infinity and for no number begin with a point.

**Tags.** The tags of the core schema demand a form.  A tag of an application's
own leaves a plain scalar as it is, and makes a string of any other.
-/

namespace EpaperLayout
namespace Yaml

/-- Digits after their superfluous leading zero. -/
def hasLeadingZero (cs : List Char) : Bool :=
  let unsigned := match cs with
    | c :: rest => if c = '-' || c = '+' then rest else cs
    | [] => []
  match unsigned with
  | '0' :: second :: rest => (second :: rest).all Text.isDigit
  | _ => false

/-- The value of a digit below the base. -/
def digit? (base : Nat) (c : Char) : Option Nat :=
  match Text.hexValue? c with
  | some value => if value < base then some value else none
  | none => none

/-- The number that digits to the base write. -/
def magnitude? (base : Nat) (cs : List Char) : Option Nat :=
  if cs.isEmpty then none else (cs.mapM (digit? base)).map (Text.ofDigits base)

/-- The number that is written without a sign, with or without the prefix of a base. -/
def unsignedMagnitude? : List Char → Option Nat
  | '0' :: 'x' :: digits => magnitude? 16 digits
  | '0' :: 'o' :: digits => magnitude? 8 digits
  | '0' :: 'b' :: digits => magnitude? 2 digits
  | cs => if hasLeadingZero cs then none else magnitude? 10 cs

/-- What a text with the form of a whole number comes to. -/
inductive Whole where
  | inRange (value : Int)
  | outOfRange
deriving DecidableEq, Repr

/-- The whole number of a sign and a magnitude, if it fits 128 bits. -/
def wholeOf (negative : Bool) (magnitude : Nat) : Option Whole :=
  if negative then
    if magnitude ≤ Nat.pow 2 63 then some (.inRange (-(magnitude : Int)))
    else if magnitude ≤ Nat.pow 2 127 then some .outOfRange
    else none
  else if magnitude < Nat.pow 2 64 then some (.inRange magnitude)
  else if magnitude < Nat.pow 2 128 then some .outOfRange
  else none

/-- The whole number that the text writes. -/
def whole? (cs : List Char) : Option Whole :=
  match cs with
  | '-' :: rest => (unsignedMagnitude? rest).bind (wholeOf true)
  | '+' :: rest => (unsignedMagnitude? rest).bind (wholeOf false)
  | _ => (unsignedMagnitude? cs).bind (wholeOf false)

/-- The bits that stand for all doubles that are no number. -/
def notANumber : UInt64 := 0x7FF8000000000000

/-- The bits of infinity. -/
def infinity : UInt64 := 0x7FF0000000000000

/-- The bit of the sign. -/
def signBit : UInt64 := 0x8000000000000000

/-- The value of an exponent after its letter. -/
def exponentValue? (cs : List Char) : Option Int :=
  match cs with
  | '-' :: digits => (Text.decimal? digits).map fun n => -(n : Int)
  | '+' :: digits => (Text.decimal? digits).map Int.ofNat
  | _ => (Text.decimal? cs).map Int.ofNat

/-- The bits of the double that a text without a sign writes. -/
def unsignedDouble? (cs : List Char) : Option UInt64 := do
  let isMark (c : Char) : Bool := c = 'e' || c = 'E'
  let mantissa := cs.takeWhile fun c => !isMark c
  let exponent ← match cs.dropWhile fun c => !isMark c with
    | [] => some 0
    | _ :: rest => exponentValue? rest
  let whole := mantissa.takeWhile (· ≠ '.')
  let fraction := (mantissa.dropWhile (· ≠ '.')).drop 1
  let digits := whole ++ fraction
  let number ← Text.decimal? digits
  Decimal.nearest? number (exponent - fraction.length)

/-- The bits with a sign; zero has none. -/
def signed (negative : Bool) (bits : UInt64) : UInt64 :=
  if negative && bits ≠ 0 then bits ||| signBit else bits

/-- The bits of the double that the text writes. -/
def double? (cs : List Char) : Option UInt64 :=
  let (sign, unsigned) := match cs with
    | '-' :: rest => (['-'], rest)
    | '+' :: rest => (['+'], rest)
    | _ => ([], cs)
  let word := String.ofList unsigned
  if [".inf", ".Inf", ".INF"].contains word then some (signed (sign = ['-']) infinity)
  else if sign.isEmpty && [".nan", ".NaN", ".NAN"].contains word then some notANumber
  else (unsignedDouble? unsigned).map (signed (sign = ['-']))

/-- Whether the text is a word for null. -/
def isNull (text : String) : Bool :=
  ["~", "null", "Null", "NULL"].contains text

/-- The truth value that the text is a word for. -/
def truth? (text : String) : Option Bool :=
  if ["true", "True", "TRUE"].contains text then some true
  else if ["false", "False", "FALSE"].contains text then some false
  else none

/-- The value of a whole number. -/
def Whole.value (text : String) : Whole → Except Cause Value
  | .inRange value => .ok (.int value)
  | .outOfRange => .error (.integerRange text)

/-- The value of a plain scalar. -/
def plainValue (text : String) : Except Cause Value :=
  let cs := text.toList
  if text.isEmpty || isNull text then .ok .null
  else
    match truth? text, whole? cs with
    | some value, _ => .ok (.bool value)
    | none, some whole => whole.value text
    | none, none =>
      match if hasLeadingZero cs then none else double? cs with
      | some bits => .ok (.float bits)
      | none => .ok (.string text)

/-- The start of the tags of the core schema. -/
def coreTag (name : String) : List UInt8 :=
  Text.encode ("tag:yaml.org,2002:" ++ name).toList

/-- Whether the tag is an application's own. -/
def isOwnTag (tag : List UInt8) : Bool :=
  tag.head? == some 0x21

/-- The name of a tag of an application's own, without the exclamation mark. -/
def tagName? (tag : List UInt8) : Option String :=
  if isOwnTag tag then
    (Text.decode? (if tag.length = 1 then tag else tag.drop 1)).map String.ofList
  else none

/-- The value of a scalar. -/
def scalarValue (tag : Option (List UInt8)) (text : String) (plain : Bool) :
    Except Cause Value :=
  let unsuited (expected : String) : Except Cause Value := .error (.unsuitedScalar text expected)
  match tag with
  | none => if plain then plainValue text else .ok (.string text)
  | some tag =>
    if tag = coreTag "bool" then
      match truth? text with
      | some value => .ok (.bool value)
      | none => unsuited "a boolean"
    else if tag = coreTag "int" then
      match whole? text.toList with
      | some whole => whole.value text
      | none => unsuited "an integer"
    else if tag = coreTag "float" then
      match double? text.toList with
      | some bits => .ok (.float bits)
      | none => unsuited "a float"
    else if tag = coreTag "null" then
      if isNull text then .ok .null else unsuited "null"
    else if isOwnTag tag && plain then plainValue text
    else .ok (.string text)

end Yaml
end EpaperLayout
