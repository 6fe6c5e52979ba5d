import EpaperLayout.Json.Shape
import EpaperLayout.Json.Value
import EpaperLayout.Proofs.Text.Numerals

/-!
# Strings and numerals are read back

A string is written between quotes with escapes, a whole number with its digits
and perhaps a minus sign.  Both readers stop exactly where the written form ends,
whatever stands behind it.

**Strings.**
* `readString_escapeChar`: one character in front of any text.
* `readString_flatMap`: a whole string with its closing quote.

**Numerals.**
* `writtenNumeral`: the numeral that stands for a whole number in a draft.
* `readNumeral_repr`: it is what is read, if nothing behind it continues it.
* `readInt_writtenNumeral`: a numeral between the bounds gives its number back.
-/

namespace EpaperLayout
namespace Json

section Strings

/-- The two digits of a control character, and the number that they write behind two zeros. -/
theorem exists_lowerDigits_eq
    {n : Nat}
    (h : n < 0x20) :
    ∃ a b, (Text.paddedDigits 16 2 n).map Text.lowerDigit = [a, b] ∧
      (Text.isHexDigit a = true ∧ Text.isHexDigit b = true) ∧
      Text.hexadecimal? ['0', '0', a, b] = some n := by
  have hall : ∀ k : Fin 0x20,
      ((Text.paddedDigits 16 2 k).map Text.lowerDigit).length = 2 ∧
        ((Text.paddedDigits 16 2 k).map Text.lowerDigit).all Text.isHexDigit = true ∧
        Text.hexadecimal? ('0' :: '0' :: (Text.paddedDigits 16 2 k).map Text.lowerDigit) =
          some k.val := by
    decide +kernel
  obtain ⟨hlength, hdigits, hvalue⟩ := hall ⟨n, h⟩
  obtain ⟨a, b, heq⟩ := List.length_eq_two.mp hlength
  rw [heq] at hdigits hvalue
  simp only [List.all_cons, List.all_nil, Bool.and_true, Bool.and_eq_true] at hdigits
  exact ⟨a, b, heq, hdigits, hvalue⟩

/-- A backslash and a letter give the character that they stand for. -/
theorem readString_simpleEscape
    {letter c : Char}
    (h : simpleEscape? letter = some c)
    (hletter : letter ≠ 'u')
    (text rest : List Char) :
    readString { text } ('\\' :: letter :: rest) = readString { text := c :: text } rest := by
  have hquote : ('\\' : Char) ≠ '"' := by decide
  rw [readString, if_neg hquote, if_pos rfl, readString]
  simp only [if_neg hletter, h]
  rfl

/-- One of the first three digits of a code point escape. -/
theorem readString_hexDigit
    {digits : List Char} {d : Char}
    (hlength : digits.length < 3)
    (hd : Text.isHexDigit d = true)
    (text rest : List Char) :
    readString { mode := .hex digits, text } (d :: rest) =
      readString { mode := .hex (digits ++ [d]), text } rest := by
  rw [readString]
  simp only [hd, Bool.not_true, Bool.false_eq_true, if_false, hlength, if_true]

/-- A code point escape of four digits gives the character with that code. -/
theorem readString_codePoint
    {c : Char}
    (h : c.toNat < 0x20)
    (text rest : List Char) :
    readString { text } (['\\', 'u', '0', '0'] ++
        (Text.paddedDigits 16 2 c.toNat).map Text.lowerDigit ++ rest) =
      readString { text := c :: text } rest := by
  obtain ⟨a, b, hdigits, ⟨ha, hb⟩, hvalue⟩ := exists_lowerDigits_eq h
  have hquote : ('\\' : Char) ≠ '"' := by decide
  have hzero : Text.isHexDigit '0' = true := by decide
  have hsize : ¬Text.byteSize ('0' :: '0' :: a :: b :: rest) < 4 := by
    have hpos := a.utf8Size_pos
    have hpos' := b.utf8Size_pos
    have hone : ('0' : Char).utf8Size = 1 := by decide
    simp only [Text.byteSize_cons, hone]
    omega
  have hunit : StringState.pushUnit { mode := .hex ['0', '0', a], text } c.toNat =
      { text := c :: text } := by
    have hlow : ¬(0xD800 ≤ c.toNat ∧ c.toNat ≤ 0xDBFF) := by omega
    have hhigh : ¬(0xDC00 ≤ c.toNat ∧ c.toNat ≤ 0xDFFF) := by omega
    simp only [StringState.pushUnit, if_neg hlow, if_neg hhigh, Char.ofNat_toNat]
  rw [hdigits]
  change readString { text } ('\\' :: 'u' :: '0' :: '0' :: a :: b :: rest) = _
  rw [readString, if_neg hquote, if_pos rfl, readString]
  simp only [if_true, if_neg hsize]
  -- the digits one by one
  rw [readString_hexDigit (by decide) hzero, readString_hexDigit (by simp) hzero,
    readString_hexDigit (by simp) ha]
  change readString { mode := .hex ['0', '0', a], text } (b :: rest) = _
  rw [readString]
  simp only [hb, Bool.not_true, Bool.false_eq_true, if_false, List.length_cons, List.length_nil,
    Nat.reduceAdd, Nat.lt_irrefl, List.cons_append, List.nil_append, hvalue, Option.getD_some,
    hunit]

/-- **The escape of a character is read back, whatever follows.** -/
theorem readString_escapeChar (c : Char) (text rest : List Char) :
    readString { text } (escapeChar c ++ rest) = readString { text := c :: text } rest := by
  have hofNat : ∀ n : Nat, c.toNat = n → c = Char.ofNat n := by
    rintro n rfl
    exact (Char.ofNat_toNat c).symm
  rw [escapeChar]
  split
  · next h => subst h; exact readString_simpleEscape rfl (by decide) text rest
  split
  · next h => subst h; exact readString_simpleEscape rfl (by decide) text rest
  split
  · next h => subst h; exact readString_simpleEscape rfl (by decide) text rest
  split
  · next h => subst h; exact readString_simpleEscape rfl (by decide) text rest
  split
  · next h => subst h; exact readString_simpleEscape rfl (by decide) text rest
  split
  · next h => rw [hofNat _ h]; exact readString_simpleEscape rfl (by decide) text rest
  split
  · next h => rw [hofNat _ h]; exact readString_simpleEscape rfl (by decide) text rest
  split
  · next h => exact readString_codePoint h text rest
  · next hquote hbackslash _ _ _ _ _ hcontrol =>
    rw [List.singleton_append, readString]
    simp only [if_neg hquote, if_neg hbackslash, if_neg hcontrol]
    rfl

/-- **A string is read up to its closing quote.** -/
theorem readString_flatMap (cs text rest : List Char) :
    readString { text } (cs.flatMap escapeChar ++ '"' :: rest) =
      .closed (some (text.reverse ++ cs)) rest := by
  induction cs generalizing text with
  | nil =>
      rw [List.flatMap_nil, List.nil_append, readString]
      simp
  | cons c cs ih =>
      rw [List.flatMap_cons, List.append_assoc, readString_escapeChar, ih, List.reverse_cons,
        List.append_assoc, List.singleton_append]

end Strings

section Numerals

/-- The numeral that stands for a whole number. -/
def writtenNumeral (value : Int) : Numeral where
  negative := decide (value < 0)
  whole := Nat.toDigits 10 value.natAbs
  fraction := none
  exponent := none

/-- A text that does not continue a numeral before it. -/
def EndsNumeral (rest : List Char) : Prop :=
  ∀ c ∈ rest.head?, Text.isDigit c = false ∧ c ≠ '.' ∧ c ≠ 'e' ∧ c ≠ 'E'

theorem endsNumeral_cons
    {c : Char}
    (h : Text.isDigit c = false ∧ c ≠ '.' ∧ c ≠ 'e' ∧ c ≠ 'E')
    (rest : List Char) :
    EndsNumeral (c :: rest) := by
  intro d hd
  rw [List.head?_cons, Option.mem_some_iff] at hd
  rwa [← hd]

/-- A positive number is written without leading zeros. -/
theorem head?_toDigits_ne_zero
    {n : Nat}
    (h : 0 < n) :
    (Nat.toDigits 10 n).head? ≠ some '0' := by
  induction n using Nat.strong_induction_on with
  | _ n ih =>
    rcases Nat.lt_or_ge n 10 with hlt | hge
    · rw [Nat.toDigits_of_lt_base hlt]
      interval_cases n <;> decide
    · rw [Nat.toDigits_of_base_le (by decide) hge,
        List.head?_append_of_ne_nil _ Nat.toDigits_ne_nil]
      exact ih (n / 10) (by omega) (by omega)

theorem takeDigits_append
    {digits rest : List Char}
    (hdigits : ∀ c ∈ digits, Text.isDigit c = true)
    (hrest : EndsNumeral rest) :
    takeDigits (digits ++ rest) = (digits, rest) := by
  rw [takeDigits, List.takeWhile_append_of_pos hdigits, List.dropWhile_append_of_pos hdigits]
  cases rest with
  | nil =>
      simp
  | cons c rest =>
      have hc := (hrest c rfl).1
      have hnot : ¬Text.isDigit c = true := by
        rw [hc]
        exact Bool.false_ne_true
      rw [List.takeWhile_cons_of_neg hnot, List.dropWhile_cons_of_neg hnot, List.append_nil]

theorem readFraction_of_endsNumeral
    {rest : List Char}
    (h : EndsNumeral rest) :
    readFraction rest = .ok (none, rest) := by
  unfold readFraction
  split
  · next after => exact absurd rfl (h '.' rfl).2.1
  · rfl

theorem readExponent_of_endsNumeral
    {rest : List Char}
    (h : EndsNumeral rest) :
    readExponent rest = .ok (none, rest) := by
  cases rest with
  | nil =>
      rfl
  | cons c rest =>
      obtain ⟨-, -, hlower, hupper⟩ := h c rfl
      simp [readExponent, hlower, hupper]

/-- The digits of a number are read as they stand. -/
theorem readUnsigned_toDigits
    {rest : List Char}
    (h : EndsNumeral rest)
    (negative : Bool)
    (n : Nat) :
    readUnsigned negative (Nat.toDigits 10 n ++ rest) =
      .ok ({ negative, whole := Nat.toDigits 10 n, fraction := none, exponent := none }, rest) := by
  have htake := takeDigits_append (fun c hc => Text.isDigit_of_mem_toDigits (n := n) hc) h
  rw [readUnsigned, htake]
  split
  · next after heq => exact absurd (Prod.mk.inj heq).1 Nat.toDigits_ne_nil
  · next second others after heq =>
    have hdigits := (Prod.mk.inj heq).1
    rcases Nat.eq_zero_or_pos n with rfl | hpos
    · rw [Nat.toDigits_zero, List.cons.injEq] at hdigits
      cases hdigits.2
    · have hhead := head?_toDigits_ne_zero hpos
      rw [hdigits] at hhead
      exact absurd rfl hhead
  · simp only [bind, Except.bind, pure, Except.pure, readFraction_of_endsNumeral h,
      readExponent_of_endsNumeral h]

/-- **A whole number is read as its numeral, if nothing continues it.** -/
theorem readNumeral_repr
    {rest : List Char}
    (h : EndsNumeral rest)
    (value : Int) :
    readNumeral (value.repr.toList ++ rest) = .ok (writtenNumeral value, rest) := by
  rw [Text.toList_repr_int]
  split
  · next hvalue =>
    obtain ⟨c, digits, heq, hc⟩ := Text.exists_digit_cons_eq_toDigits value.toNat
    have hminus : c ≠ '-' := by
      rintro rfl
      cases hc
    have hread := readUnsigned_toDigits h false value.toNat
    rw [heq, List.cons_append] at hread ⊢
    rw [readNumeral.eq_2 _ (fun after hafter => hminus (List.cons.inj hafter).1), hread,
      writtenNumeral]
    have hnat : value.natAbs = value.toNat := by omega
    rw [hnat, heq, decide_eq_false (by omega)]
  · next hvalue =>
    rw [List.cons_append, readNumeral, readUnsigned_toDigits h, writtenNumeral]
    have hnat : value.natAbs = (-value).toNat := by omega
    rw [hnat, decide_eq_true (by omega)]

/-- A numeral of a whole number in the range of the readers stands for it. -/
theorem number_writtenNumeral
    {value : Int}
    (hlow : -(Nat.pow 2 63 : Nat) ≤ value)
    (hhigh : value < UInt64.size) :
    (writtenNumeral value).number = .integer value := by
  have hdigits : Text.ofDigits 10 ((Nat.toDigits 10 value.natAbs).map Text.digitValue) =
      value.natAbs := by
    rw [Text.ofDigits_map_digitValue, Nat.ofDigitChars_toDigits]
    all_goals decide
  have hinteger : (writtenNumeral value).integer? = some value := by
    rw [Numeral.integer?, writtenNumeral]
    simp only [Option.isSome_none, Bool.or_self, Bool.false_eq_true, if_false, hdigits,
      decide_eq_true_eq]
    split
    · rw [if_pos (by omega)]
      congr 1
      omega
    · rw [if_pos (by omega)]
      congr 1
      omega
  rw [Numeral.number, hinteger]

/-- **A numeral between the bounds gives its number back.** -/
theorem readInt_writtenNumeral
    {low high value : Int}
    (hlow : low ≤ value)
    (hhigh : value ≤ high)
    (hbounds : -(Nat.pow 2 63 : Nat) ≤ low ∧ high < UInt64.size)
    (expected : String) :
    readInt low high expected (.number (writtenNumeral value)) = .ok value := by
  rw [readInt, number_writtenNumeral (by omega) (by omega)]
  simp only [hlow, hhigh, and_self, if_true]

end Numerals

end Json
end EpaperLayout
