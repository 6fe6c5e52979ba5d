import EpaperLayout.Decimal.Shortest
import EpaperLayout.Text.Numeral

/-!
# Numbers in a JSON text

A numeral keeps its digits as they were written.  It stands for a whole number
if it has neither a fraction nor an exponent and fits an unsigned or signed
64-bit number; minus zero and all other numerals stand for doubles.

**Reading a double.** The digits are collected while they fit 64 bits, further
digits of the whole part only raise the exponent, and the double is the collected
number times or divided by a power of ten, with one rounding for each step.  A
numeral whose value exceeds all doubles is out of range.

**Writing a double.** The shortest digits, in positional form from `1e-5` up to
but not including `1e16` and always with a point, else with a signed exponent of
at least two digits.
-/

namespace EpaperLayout
namespace Json

/-- The exponent of a numeral. -/
structure Exponent where
  negative : Bool
  digits : List Char
deriving Repr, DecidableEq

/-- A numeral as it was written. -/
structure Numeral where
  negative : Bool
  whole : List Char
  /-- The digits after the point. -/
  fraction : Option (List Char)
  exponent : Option Exponent
deriving Repr, DecidableEq

/-- What a numeral stands for. -/
inductive Number where
  | integer (value : Int)
  | double (value : Float)
  | outOfRange
deriving Repr

namespace Numeral

/-- Digits collected so far: a number below `2 ^ 64` and a power of ten. -/
structure Collected where
  significand : Nat
  exponent : Int
  /-- Whether a digit did not fit. -/
  full : Bool := false
deriving Repr

/-- Whether one more digit fits 64 bits. -/
def Collected.fits (c : Collected) (digit : Nat) : Bool :=
  c.significand * 10 + digit < UInt64.size

/-- Takes a digit of the whole part: after the first that does not fit, all raise the exponent. -/
def Collected.takeWhole (c : Collected) (digit : Nat) : Collected :=
  if !c.full && c.fits digit then { c with significand := c.significand * 10 + digit }
  else { c with exponent := c.exponent + 1, full := true }

/-- Takes a digit of the fraction: after the first that does not fit, all are dropped. -/
def Collected.takeFraction (c : Collected) (digit : Nat) : Collected :=
  if !c.full && c.fits digit then
    { c with significand := c.significand * 10 + digit, exponent := c.exponent - 1 }
  else { c with full := true }

/-- The significant digits of a numeral, without its written exponent. -/
def collected (n : Numeral) : Collected :=
  let digits (cs : List Char) := cs.map Text.digitValue
  let whole := (digits n.whole).foldl Collected.takeWhole { significand := 0, exponent := 0 }
  (digits (n.fraction.getD [])).foldl Collected.takeFraction { whole with full := false }

/-- A power of ten as a double. -/
def powerOfTen (n : Nat) : Float :=
  Float.ofScientific 1 false n

/-- The double `f · 10 ^ e`, in steps of at most `10 ^ 308`; nothing if it is infinite. -/
def scale? : (steps : Nat) → (f : Float) → (e : Int) → Option Float
  | 0, f, _ => some f
  | steps + 1, f, e =>
    if e.natAbs ≤ 308 then
      if 0 ≤ e then
        let product := f * powerOfTen e.natAbs
        if product.isInf then none else some product
      else some (f / powerOfTen e.natAbs)
    else if f == 0 then some f
    else if 0 ≤ e then none
    else scale? steps (f / powerOfTen 308) (e + 308)

/-- The magnitude of a numeral as a double. -/
def magnitude? (n : Numeral) : Option Float :=
  let c := n.collected
  let written : Int :=
    match n.exponent with
    | some e =>
      let value := (Text.ofDigits 10 (e.digits.map Text.digitValue) : Int)
      if e.negative then -value else value
    | none => 0
  scale? 4 (UInt64.ofNat c.significand).toFloat (c.exponent + written)

/-- The whole number that a numeral writes, if it is in range and not minus zero. -/
def integer? (n : Numeral) : Option Int :=
  if n.fraction.isSome || n.exponent.isSome then none
  else
    let value := Text.ofDigits 10 (n.whole.map Text.digitValue)
    if n.negative then
      if 0 < value ∧ value ≤ Nat.pow 2 63 then some (-(value : Int)) else none
    else if value < UInt64.size then some value else none

/-- What the numeral stands for. -/
def number (n : Numeral) : Number :=
  match n.integer? with
  | some value => .integer value
  | none =>
    match n.magnitude? with
    | some f => .double (if n.negative then -f else f)
    | none => .outOfRange

end Numeral

/-- The digits of a decimal with a point after the first `whole` of them. -/
def positional (digits : List Char) (whole : Int) : List Char :=
  if whole ≤ 0 then '0' :: '.' :: List.replicate (-whole).toNat '0' ++ digits
  else
    let padded := digits ++ List.replicate (whole.toNat - digits.length) '0'
    let after := padded.drop whole.toNat
    padded.take whole.toNat ++ '.' :: if after.isEmpty then ['0'] else after

/-- The digits of a decimal with a point after the first and an exponent. -/
def scientific (digits : List Char) (exponent : Int) : List Char :=
  let mark := if exponent < 0 then '-' else '+'
  let magnitude := Nat.toDigits 10 exponent.natAbs
  let padded := if magnitude.length < 2 then '0' :: magnitude else magnitude
  let mantissa := match digits with
    | first :: second :: rest => first :: '.' :: second :: rest
    | _ => digits
  mantissa ++ 'e' :: mark :: padded

/-- The written form of a finite double. -/
def doubleText (f : Float) : String :=
  let bits := f.toBits
  let sign := if Nat.pow 2 63 ≤ bits.toNat then ['-'] else []
  match Decimal.Binary.ofBits? bits with
  | none => String.ofList (sign ++ ['0', '.', '0'])
  | some x =>
    let d := Decimal.shortest x
    let digits := Nat.toDigits 10 d.digits
    let lead : Int := d.exponent + digits.length - 1
    if -5 ≤ lead ∧ lead ≤ 15 then String.ofList (sign ++ positional digits (lead + 1))
    else String.ofList (sign ++ scientific digits lead)

end Json
end EpaperLayout
