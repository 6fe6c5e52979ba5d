/-!
# White space and control characters

Two character classes of Unicode, and trimming by the first of them.

**White space.** A character is *blank* when it has the property `White_Space`:
twenty-five code points, from the tabulator to the ideographic space.  The zero
width space and the byte order mark are not among them.

**Control.** A character is a *control* character when its category is `Cc`:
the first thirty-two code points, the delete character and the C1 block.

**Result.** Nothing is left of a text after its leading blanks exactly when
every character of it is blank.
-/

namespace EpaperLayout
namespace Text

/-- What holds of all characters of a text is decided along the text, and never by going through
all characters there are. -/
instance (priority := 2000) decidableForallMem (p : Char → Prop) [DecidablePred p]
    (cs : List Char) : Decidable (∀ c ∈ cs, p c) :=
  List.decidableBAll p cs

/-- The property `White_Space`. -/
def isBlank (c : Char) : Bool :=
  (0x09 ≤ c.toNat && c.toNat ≤ 0x0D)
    || c.toNat == 0x20 || c.toNat == 0x85 || c.toNat == 0xA0 || c.toNat == 0x1680
    || (0x2000 ≤ c.toNat && c.toNat ≤ 0x200A)
    || c.toNat == 0x2028 || c.toNat == 0x2029 || c.toNat == 0x202F
    || c.toNat == 0x205F || c.toNat == 0x3000

/-- The category `Cc`. -/
def isControl (c : Char) : Bool :=
  c.toNat ≤ 0x1F || (0x7F ≤ c.toNat && c.toNat ≤ 0x9F)

/-- The text without the blanks it starts with. -/
def trimLeft (cs : List Char) : List Char :=
  cs.dropWhile isBlank

/-- The text without the blanks it ends with. -/
def trimRight (cs : List Char) : List Char :=
  (cs.reverse.dropWhile isBlank).reverse

/-- The text without the blanks at both ends. -/
def trim (cs : List Char) : List Char :=
  trimRight (trimLeft cs)

/-- A text is blank when all its characters are. -/
def isBlankText (s : String) : Bool :=
  s.toList.all isBlank

/-- Nothing is left of a text after its leading blanks exactly when it is blank. -/
theorem trimLeft_eq_nil_iff (cs : List Char) :
    trimLeft cs = [] ↔ ∀ c ∈ cs, isBlank c = true := by
  induction cs with
  | nil => simp [trimLeft]
  | cons c rest ih =>
    by_cases h : isBlank c = true
    · have hrest : trimLeft (c :: rest) = trimLeft rest := List.dropWhile_cons_of_pos h
      simp [hrest, ih, h]
    · simp [trimLeft, List.dropWhile, h]

end Text
end EpaperLayout
