/-!
# The double nearest to a decimal

A decimal `digits · 10 ^ exponent` and the bits of the double that is nearest to
it.  A decimal that is greater than all doubles has none; a tiny one has zero.

Decimals whose first digit stands far outside the range of the doubles are told
apart by its place, so that no power of ten is computed for them.
-/

namespace EpaperLayout
namespace Decimal

/-- The place of the first digit beyond which a decimal is infinite, or before which it is zero. -/
def farPlace : Int := 400

/-- The bits of the double nearest to `digits · 10 ^ exponent`; nothing if it is infinite. -/
def nearest? (digits : Nat) (exponent : Int) : Option UInt64 :=
  let place : Int := (Nat.toDigits 10 digits).length + exponent
  if digits = 0 ∨ place < -farPlace then some 0
  else if farPlace < place then none
  else
    let value := Float.ofScientific digits (exponent < 0) exponent.natAbs
    if value.isInf then none else some value.toBits

end Decimal
end EpaperLayout
