/-!
# The shortest decimal of a binary fraction

A finite positive double is `m · 2^q`.  Every real number between the midpoints
to its two neighbours rounds to it, the midpoints included when `m` is even.
Among the decimals in that interval `shortest` picks one with the fewest digits,
and of those the one nearest to the double itself.

**Algorithm.** For one, two, … seventeen digits the two decimals on either side
of the double are tested in exact arithmetic with fractions of natural numbers;
the first number of digits for which one of them lies in the interval wins.
-/

namespace EpaperLayout
namespace Decimal

/-- A fraction with a positive denominator. -/
structure Fraction where
  num : Nat
  den : Nat
deriving Repr

namespace Fraction

/-- The fraction `n · base ^ e`. -/
def scaled (n base : Nat) (e : Int) : Fraction :=
  if 0 ≤ e then { num := n * Nat.pow base e.toNat, den := 1 }
  else { num := n, den := Nat.pow base (-e).toNat }

/-- Comparison of two fractions. -/
def le (a b : Fraction) : Bool :=
  a.num * b.den ≤ b.num * a.den

/-- Strict comparison of two fractions. -/
def lt (a b : Fraction) : Bool :=
  a.num * b.den < b.num * a.den

/-- The distance of two fractions. -/
def distance (a b : Fraction) : Fraction where
  num := (a.num * b.den - b.num * a.den) + (b.num * a.den - a.num * b.den)
  den := a.den * b.den

end Fraction

/-- A positive double: `mantissa · 2 ^ exponent`. -/
structure Binary where
  mantissa : Nat
  exponent : Int
deriving Repr

namespace Binary

/-- The double with the given bits, without its sign; nothing for zero, infinity and no number. -/
def ofBits? (bits : UInt64) : Option Binary :=
  let fraction : Nat := bits.toNat % Nat.pow 2 52
  let biased : Nat := (bits.toNat / Nat.pow 2 52) % Nat.pow 2 11
  if biased = 2047 then none
  else if biased = 0 then
    if fraction = 0 then none else some { mantissa := fraction, exponent := -1074 }
  else some { mantissa := Nat.pow 2 52 + fraction, exponent := (biased : Int) - 1075 }

/-- The value of a double. -/
def value (x : Binary) : Fraction :=
  .scaled x.mantissa 2 x.exponent

/-- The midpoint to the next greater double. -/
def upper (x : Binary) : Fraction :=
  .scaled (2 * x.mantissa + 1) 2 (x.exponent - 1)

/-- The midpoint to the next smaller double, which is nearer at a power of two. -/
def lower (x : Binary) : Fraction :=
  if x.mantissa = Nat.pow 2 52 ∧ -1074 < x.exponent then
    .scaled (4 * x.mantissa - 1) 2 (x.exponent - 2)
  else .scaled (2 * x.mantissa - 1) 2 (x.exponent - 1)

/-- Whether the fraction rounds to the double. -/
def rounds (x : Binary) (a : Fraction) : Bool :=
  if x.mantissa % 2 = 0 then x.lower.le a && a.le x.upper
  else x.lower.lt a && a.lt x.upper

end Binary

/-- A decimal: `digits · 10 ^ exponent`. -/
structure Digits where
  digits : Nat
  exponent : Int
deriving Repr

/-- The greatest decimal exponent, at most `bound` steps from `start`, of a power of ten that
does not exceed the fraction. -/
def leadingExponent (a : Fraction) : (bound : Nat) → (start : Int) → Int
  | 0, start => start
  | bound + 1, start =>
    if (Fraction.scaled 1 10 start).le a then start else leadingExponent a bound (start - 1)

/-- The decimal nearest to the double on the grid `10 ^ exponent`, if one rounds to it. -/
def onGrid? (x : Binary) (exponent : Int) : Option Digits :=
  let step := Fraction.scaled 1 10 exponent
  let below := (x.value.num * step.den) / (x.value.den * step.num)
  let gap (n : Nat) : Fraction := (Fraction.scaled n 10 exponent).distance x.value
  let candidates := [below, below + 1].filter fun n => x.rounds (.scaled n 10 exponent)
  match candidates with
  | [] => none
  | [only] => some { digits := only, exponent }
  | first :: second :: _ =>
    if (gap second).lt (gap first) then some { digits := second, exponent }
    else some { digits := first, exponent }

/-- The first decimal found on ever finer grids, `count` of them from `exponent` on. -/
def firstOnGrids (x : Binary) : (count : Nat) → (exponent : Int) → Digits
  | 0, exponent => (onGrid? x exponent).getD { digits := 0, exponent }
  | count + 1, exponent =>
    match onGrid? x exponent with
    | some found => found
    | none => firstOnGrids x count (exponent - 1)

/-- The decimal without zeros at its end. -/
def dropZeros : (bound : Nat) → Digits → Digits
  | 0, d => d
  | bound + 1, d =>
    if d.digits ≠ 0 ∧ d.digits % 10 = 0 then
      dropZeros bound { digits := d.digits / 10, exponent := d.exponent + 1 }
    else d

/-- The shortest decimal that rounds to the double. -/
def shortest (x : Binary) : Digits :=
  let lead := leadingExponent x.value 640 309
  dropZeros 20 (firstOnGrids x 17 lead)

end Decimal
end EpaperLayout
