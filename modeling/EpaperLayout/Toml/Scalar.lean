import EpaperLayout.Decimal.Nearest
import EpaperLayout.Text.Numeral
import EpaperLayout.Toml.Table

/-!
# TOML scalars that are no strings

Truth values, numbers, dates and times are runs of characters; this module tells
them apart.

**Numbers.** Underscores may stand between digits.  A decimal number has no
superfluous leading zero; numbers to the bases sixteen, eight and two have a
prefix and no sign.  A whole number must fit 128 bits, and a double be finite
unless it is written as `inf` or `nan`.

**Dates and times** have fixed widths; the seconds of a time may be left out.  A
date and a time may be joined and may have an offset.
-/

namespace EpaperLayout
namespace Toml

/-- Digits without the underscores between them; nothing if an underscore is not between two
digits. -/
def dropUnderscores? (isDigit : Char → Bool) (cs : List Char) : Option (List Char) :=
  let rec go (afterDigit : Bool) : List Char → Option (List Char)
    | [] => if afterDigit then some [] else none
    | c :: rest =>
      if isDigit c then (go true rest).map (c :: ·)
      else if c = '_' && afterDigit then go false rest
      else none
  go false cs

/-- Decimal digits without a superfluous leading zero. -/
def plainDigits? (cs : List Char) : Option (List Char) := do
  let digits ← dropUnderscores? Text.isDigit cs
  match digits with
  | '0' :: _ :: _ => none
  | _ => some digits

/-- The number that digits to a base write. -/
def based? (base : Nat) (isDigit : Char → Bool) (cs : List Char) : Option Nat := do
  let digits ← dropUnderscores? isDigit cs
  return Text.ofDigits base ((digits.mapM Text.hexValue?).getD [])

/-- A sign and what follows it. -/
def splitSign : List Char → Bool × Bool × List Char
  | '-' :: rest => (true, true, rest)
  | '+' :: rest => (true, false, rest)
  | cs => (false, false, cs)

/-- A whole number, if it fits 128 bits. -/
def integer? (cs : List Char) : Option Int := do
  let value : Int ← match cs with
    | '0' :: 'x' :: digits => (based? 16 Text.isHexDigit digits).map Int.ofNat
    | '0' :: 'o' :: digits => (based? 8 Text.isOctalDigit digits).map Int.ofNat
    | '0' :: 'b' :: digits => (based? 2 (fun c => c = '0' || c = '1') digits).map Int.ofNat
    | _ => do
      let (_, negative, unsigned) := splitSign cs
      let magnitude ← Text.decimal? (← plainDigits? unsigned)
      return if negative then -(magnitude : Int) else magnitude
  if -(Nat.pow 2 127 : Int) ≤ value ∧ value < (Nat.pow 2 128 : Int) then some value else none

/-- Whether the characters write a double. -/
def isFloat (cs : List Char) : Bool :=
  let (_, _, unsigned) := splitSign cs
  if unsigned = "inf".toList || unsigned = "nan".toList then true
  else
    let isMark (c : Char) : Bool := c = 'e' || c = 'E'
    let mantissa := unsigned.takeWhile fun c => !isMark c
    let exponentPart := unsigned.dropWhile fun c => !isMark c
    let whole := plainDigits? (mantissa.takeWhile (· ≠ '.'))
    let fractionPart := mantissa.dropWhile (· ≠ '.')
    let fraction := match fractionPart with
      | [] => some []
      | _ :: digits => dropUnderscores? Text.isDigit digits
    let exponent : Option Int := match exponentPart with
      | [] => some 0
      | _ :: written =>
        let (_, negative, digits) := splitSign written
        ((dropUnderscores? Text.isDigit digits).bind Text.decimal?).map fun n =>
          if negative then -(n : Int) else n
    match whole, fraction, exponent with
    | some whole, some fraction, some exponent =>
      !(fractionPart.isEmpty && exponentPart.isEmpty)
        && (Decimal.nearest? ((Text.decimal? (whole ++ fraction)).getD 0)
          (exponent - fraction.length)).isSome
    | _, _, _ => false

/-- The number of exactly `width` digits at the start of a text, and what follows them. -/
def fixed? (width : Nat) (cs : List Char) : Option (Nat × List Char) := do
  let digits := cs.take width
  if digits.length < width then none else return (← Text.decimal? digits, cs.drop width)

/-- What follows a character at the start of a text. -/
def after? (c : Char) : List Char → Option (List Char)
  | d :: rest => if d = c then some rest else none
  | [] => none

/-- The number of days in a month. -/
def daysIn (year month : Nat) : Nat :=
  if month = 2 then
    if (year % 4 = 0 ∧ year % 100 ≠ 0) ∨ year % 400 = 0 then 29 else 28
  else if month = 4 ∨ month = 6 ∨ month = 9 ∨ month = 11 then 30
  else 31

/-- What follows a date. -/
def afterDate? (cs : List Char) : Option (List Char) := do
  let (year, rest) ← fixed? 4 cs
  let (month, rest) ← fixed? 2 (← after? '-' rest)
  let (day, rest) ← fixed? 2 (← after? '-' rest)
  if 1 ≤ month ∧ month ≤ 12 ∧ 1 ≤ day ∧ day ≤ daysIn year month then some rest else none

/-- What follows the seconds of a time, if their number is in range. -/
def afterSeconds? (cs : List Char) : Option (List Char) := do
  let (second, rest) ← fixed? 2 cs
  if 60 < second then none
  else
    match rest with
    | '.' :: digits =>
      if (digits.takeWhile Text.isDigit).isEmpty then none
      else some (digits.dropWhile Text.isDigit)
    | _ => some rest

/-- What follows a time. -/
def afterTime? (cs : List Char) : Option (List Char) := do
  let (hour, rest) ← fixed? 2 cs
  let (minute, rest) ← fixed? 2 (← after? ':' rest)
  if 24 ≤ hour ∨ 60 ≤ minute then none
  else
    match rest with
    | ':' :: seconds => afterSeconds? seconds
    | _ => some rest

/-- Whether the characters write an offset from universal time, or nothing. -/
def isOffset (cs : List Char) : Bool :=
  match cs with
  | [] => true
  | sign :: rest =>
    if sign = 'Z' || sign = 'z' then rest.isEmpty
    else if sign = '+' || sign = '-' then
      match (do
        let (hour, rest) ← fixed? 2 rest
        let (minute, rest) ← fixed? 2 (← after? ':' rest)
        return (hour, minute, rest) : Option (Nat × Nat × List Char)) with
      | some (hour, minute, rest) => hour < 24 && minute < 60 && rest.isEmpty
      | none => false
    else false

/-- Whether the characters write a date, a time or both. -/
def isDateTime (cs : List Char) : Bool :=
  match afterDate? cs with
  | some [] => true
  | some (join :: rest) =>
    (join = 'T' || join = 't' || join = ' ') && (afterTime? rest).any isOffset
  | none => (afterTime? cs).any List.isEmpty

/-- The value that a run of characters writes. -/
def scalar? (cs : List Char) : Option Value :=
  if cs = "true".toList then some (.boolean true)
  else if cs = "false".toList then some (.boolean false)
  else
    match integer? cs with
    | some value => some (.integer value)
    | none =>
      if isFloat cs then some (.float (String.ofList cs))
      else if isDateTime cs then some (.dateTime (String.ofList cs))
      else none

end Toml
end EpaperLayout
