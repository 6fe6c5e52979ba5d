/-!
# Bounded numerals

Reading whole numbers from their digits.  A numeral is an optional sign and one
or more ASCII digits; leading zeros are allowed.  A signed type takes `+` or
`-`, an unsigned type only `+`.  A value outside the range of the type is no
value of it.

Hexadecimal digits of either case are read by `hexValue?`; `paddedHex` writes a
byte with two upper-case digits, and `octal` a byte with three octal digits.
-/

namespace EpaperLayout
namespace Text

/-- An ASCII digit. -/
def isDigit (c : Char) : Bool :=
  '0' ≤ c && c ≤ '9'

/-- An ASCII letter or digit. -/
def isAlphanumeric (c : Char) : Bool :=
  isDigit c || ('a' ≤ c && c ≤ 'z') || ('A' ≤ c && c ≤ 'Z')

/-- A character of an identifier: an ASCII letter, a digit or the underscore. -/
def isIdentifierChar (c : Char) : Bool :=
  isAlphanumeric c || c == '_'

/-- An octal digit. -/
def isOctalDigit (c : Char) : Bool :=
  '0' ≤ c && c ≤ '7'

/-- The value of an ASCII digit. -/
def digitValue (c : Char) : Nat :=
  c.toNat - '0'.toNat

/-- The value of a hexadecimal digit of either case. -/
def hexValue? (c : Char) : Option Nat :=
  if '0' ≤ c && c ≤ '9' then some (c.toNat - '0'.toNat)
  else if 'a' ≤ c && c ≤ 'f' then some (c.toNat - 'a'.toNat + 10)
  else if 'A' ≤ c && c ≤ 'F' then some (c.toNat - 'A'.toNat + 10)
  else none

/-- A hexadecimal digit of either case. -/
def isHexDigit (c : Char) : Bool :=
  (hexValue? c).isSome

/-- The number that a list of digits to the base `base` writes, most significant first. -/
def ofDigits (base : Nat) (digits : List Nat) : Nat :=
  digits.foldl (fun value digit => value * base + digit) 0

/-- The number that ASCII digits write; nothing for no digits or any other character. -/
def decimal? (cs : List Char) : Option Nat :=
  if cs.isEmpty || !cs.all isDigit then none
  else some (ofDigits 10 (cs.map digitValue))

/-- The number that hexadecimal digits write; nothing for no digits or any other character. -/
def hexadecimal? (cs : List Char) : Option Nat :=
  if cs.isEmpty then none
  else (cs.mapM hexValue?).map (ofDigits 16)

/-- A numeral without a minus sign that is less than `bound`. -/
def unsigned? (bound : Nat) (cs : List Char) : Option Nat :=
  let digits :=
    match cs with
    | '+' :: rest => rest
    | _ => cs
  match decimal? digits with
  | some n => if n < bound then some n else none
  | none => none

/-- A numeral whose value lies in `-bound ≤ value < bound`. -/
def signed? (bound : Nat) (cs : List Char) : Option Int :=
  match cs with
  | '-' :: rest =>
    match decimal? rest with
    | some n => if n ≤ bound then some (-(n : Int)) else none
    | none => none
  | _ => (unsigned? bound cs).map Int.ofNat

/-- A numeral of an unsigned 32-bit number. -/
def uint32? (cs : List Char) : Option UInt32 :=
  (unsigned? UInt32.size cs).map UInt32.ofNat

/-- A numeral of an unsigned 16-bit number. -/
def uint16? (cs : List Char) : Option UInt16 :=
  (unsigned? UInt16.size cs).map UInt16.ofNat

/-- A numeral of a signed 32-bit number. -/
def int32? (cs : List Char) : Option Int32 :=
  (signed? (Nat.pow 2 31) cs).map Int32.ofInt

/-- The digit characters of a base up to sixteen, in upper case. -/
def upperDigit (n : Nat) : Char :=
  if n < 10 then Char.ofNat ('0'.toNat + n) else Char.ofNat ('A'.toNat + (n - 10))

/-- The digit characters of a base up to sixteen, in lower case. -/
def lowerDigit (n : Nat) : Char :=
  if n < 10 then Char.ofNat ('0'.toNat + n) else Char.ofNat ('a'.toNat + (n - 10))

/-- The last `width` digits of a number to the base `base`, most significant first. -/
def paddedDigits (base : Nat) : (width : Nat) → Nat → List Nat
  | 0, _ => []
  | width + 1, n => paddedDigits base width (n / base) ++ [n % base]

/-- The two upper-case hexadecimal digits of a byte. -/
def hexByte (byte : UInt8) : List Char :=
  (paddedDigits 16 2 byte.toNat).map upperDigit

/-- The three octal digits of a byte. -/
def octalByte (byte : UInt8) : List Char :=
  (paddedDigits 8 3 byte.toNat).map upperDigit

/-- A number in octal digits, without leading zeros. -/
def octal (n : Nat) : List Char :=
  Nat.toDigits 8 n

/-- A number in lower-case hexadecimal digits, without leading zeros. -/
def lowerHex (n : Nat) : List Char :=
  Nat.toDigits 16 n

end Text
end EpaperLayout
