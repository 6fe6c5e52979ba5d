/-!
# Tables of code points

A property of characters beyond ASCII is a table: a list of closed intervals of
code points in increasing order.  `inTable` says whether a character lies in one
of them.
-/

namespace EpaperLayout
namespace Text

/-- A list of closed intervals of code points. -/
abbrev CodeTable :=
  List (Nat × Nat)

/-- Whether the character lies in one of the intervals. -/
def inTable (table : CodeTable) (c : Char) : Bool :=
  table.any fun interval => interval.1 ≤ c.toNat && c.toNat ≤ interval.2

/-- A character lies in a table exactly when one of its intervals holds it. -/
theorem inTable_iff (table : CodeTable) (c : Char) :
    inTable table c = true ↔
      ∃ interval ∈ table, interval.1 ≤ c.toNat ∧ c.toNat ≤ interval.2 := by
  simp [inTable]

end Text
end EpaperLayout
