import EpaperLayout.Layout.Color
import EpaperLayout.Proofs.Text.Trimming
import Mathlib.Tactic

/-!
# Texts of colours

A colour is written as six hexadecimal digits, a pair for each channel, perhaps
with a number sign in front and with blanks around.  The reader takes all these
texts.  It reads each pair as a numeral, and a numeral may begin with a plus sign,
so it takes some more texts, in which a plus sign stands for the first digit of a
channel.

**Input.**  Any text.  `IsTextOf` says what the whole text looks like, once for all
ways to write the channels.

**Results.**
* `channelValue?_eq_some_iff`: what is read as a channel.
* `dropNumberSign_trim_eq_iff`: what is left without blanks and number sign.
* `ofHex_eq_ok_iff`: which texts are read as which colour, and that those without
  a plus sign are the documented ones.
* `ofHex_plusSigns`: a text with plus signs that is read as a colour.
-/

namespace EpaperLayout
namespace Color

/-- Two hexadecimal digits with the value of a channel. -/
def IsDigitPair (digits : List Char) (channel : UInt8) : Prop :=
  ∃ a b high low, digits = [a, b] ∧ Text.hexValue? a = some high ∧
    Text.hexValue? b = some low ∧ channel.toNat = 16 * high + low

/-- A plus sign and one hexadecimal digit with the value of a channel. -/
def IsSignedDigit (digits : List Char) (channel : UInt8) : Prop :=
  ∃ b low, digits = ['+', b] ∧ Text.hexValue? b = some low ∧ channel.toNat = low

/-- What the reader takes for a channel. -/
def IsChannel (digits : List Char) (channel : UInt8) : Prop :=
  IsDigitPair digits channel ∨ IsSignedDigit digits channel

/-- Digits between blanks, with at most one number sign in front. -/
def Surrounds (cs digits : List Char) : Prop :=
  ∃ before sign after, cs = before ++ (sign ++ digits) ++ after ∧
    (∀ c ∈ before, Text.isBlank c = true) ∧ (∀ c ∈ after, Text.isBlank c = true) ∧
    (sign = [] ∨ sign = ['#'])

/-- A text of a colour whose channels are written in the given way. -/
def IsTextOf (written : List Char → UInt8 → Prop) (s : String) (color : Color) : Prop :=
  ∃ red green blue, Surrounds s.toList (red ++ green ++ blue) ∧
    written red color.red ∧ written green color.green ∧ written blue color.blue

section Channels

/-- The ranges of the hexadecimal digits and of their values. -/
theorem range_of_hexValue?
    {c : Char} {n : Nat}
    (h : Text.hexValue? c = some n) :
    n < 16 ∧ ((48 ≤ c.toNat ∧ c.toNat ≤ 57) ∨ (97 ≤ c.toNat ∧ c.toNat ≤ 102) ∨
      (65 ≤ c.toNat ∧ c.toNat ≤ 70)) := by
  have hrange : ∀ a b : Char, (decide (a ≤ c) && decide (c ≤ b)) = true →
      a.toNat ≤ c.toNat ∧ c.toNat ≤ b.toNat := by
    intro a b hab
    rw [Bool.and_eq_true, decide_eq_true_eq, decide_eq_true_eq] at hab
    exact hab
  have hzero : '0'.toNat = 48 := rfl
  have hnine : '9'.toNat = 57 := rfl
  have hsmall : 'a'.toNat = 97 ∧ 'f'.toNat = 102 := ⟨rfl, rfl⟩
  have hlarge : 'A'.toNat = 65 ∧ 'F'.toNat = 70 := ⟨rfl, rfl⟩
  unfold Text.hexValue? at h
  split at h
  · next hdigit =>
    have := hrange _ _ hdigit
    rw [Option.some.injEq] at h
    omega
  · split at h
    · next hletter =>
      have := hrange _ _ hletter
      rw [Option.some.injEq] at h
      omega
    · split at h
      · next hletter =>
        have := hrange _ _ hletter
        rw [Option.some.injEq] at h
        omega
      · cases h

/-- A numeral of one digit has the value of the digit. -/
theorem hexadecimal?_singleton (b : Char) :
    Text.hexadecimal? [b] = Text.hexValue? b := by
  cases h : Text.hexValue? b <;> simp [Text.hexadecimal?, Text.ofDigits, h]

/-- The first of two digits counts sixteen times. -/
theorem hexadecimal?_pair_eq_some_iff (a b : Char) (n : Nat) :
    Text.hexadecimal? [a, b] = some n
      ↔
    ∃ high low, Text.hexValue? a = some high ∧ Text.hexValue? b = some low ∧
      n = 16 * high + low := by
  cases ha : Text.hexValue? a with
  | none =>
      simp [Text.hexadecimal?, ha]
  | some high =>
      cases hb : Text.hexValue? b with
      | none =>
          simp [Text.hexadecimal?, ha, hb]
      | some low =>
          simp [Text.hexadecimal?, Text.ofDigits, ha, hb, Nat.mul_comm, eq_comm]

theorem isChannel_iff_of_ne_plus
    {a : Char}
    (ha : a ≠ '+')
    (b : Char)
    (channel : UInt8) :
    IsChannel [a, b] channel ↔ IsDigitPair [a, b] channel := by
  refine or_iff_left ?_
  rintro ⟨c, low, hpair, -⟩
  exact ha (List.cons.inj hpair).1

theorem hexValue?_plus : Text.hexValue? '+' = none := by
  decide

theorem isChannel_plus_iff (b : Char) (channel : UInt8) :
    IsChannel ['+', b] channel ↔ IsSignedDigit ['+', b] channel := by
  refine or_iff_right ?_
  rintro ⟨a, c, high, low, hpair, hhigh, -⟩
  rw [← (List.cons.inj hpair).1, hexValue?_plus] at hhigh
  cases hhigh

/-- **A channel is read from a pair of digits, or from a digit behind a plus sign.** -/
theorem channelValue?_eq_some_iff (a b : Char) (channel : UInt8) :
    channelValue? a b = some channel ↔ IsChannel [a, b] channel := by
  have hvalue : ∀ n, n < 256 → (UInt8.ofNat n = channel ↔ channel.toNat = n) := by
    intro n hn
    rw [← UInt8.toNat_inj, UInt8.toNat_ofNat_of_lt' hn, eq_comm]
  unfold channelValue?
  simp only
  by_cases ha : a = '+'
  · subst ha
    rw [isChannel_plus_iff, if_pos rfl, hexadecimal?_singleton, Option.map_eq_some_iff]
    constructor
    · rintro ⟨n, hn, hchannel⟩
      have hlow := (range_of_hexValue? hn).1
      exact ⟨b, n, rfl, hn, (hvalue n (by omega)).mp hchannel⟩
    · rintro ⟨c, n, hpair, hn, hchannel⟩
      obtain rfl : b = c := (List.cons.inj (List.cons.inj hpair).2).1
      have hlow := (range_of_hexValue? hn).1
      exact ⟨n, hn, (hvalue n (by omega)).mpr hchannel⟩
  · rw [isChannel_iff_of_ne_plus ha, if_neg ha, Option.map_eq_some_iff]
    constructor
    · rintro ⟨n, hn, hchannel⟩
      obtain ⟨high, low, hhigh, hlow, rfl⟩ := (hexadecimal?_pair_eq_some_iff a b n).mp hn
      have := (range_of_hexValue? hhigh).1
      have := (range_of_hexValue? hlow).1
      exact ⟨a, b, high, low, rfl, hhigh, hlow, (hvalue _ (by omega)).mp hchannel⟩
    · rintro ⟨c, d, high, low, hpair, hhigh, hlow, hchannel⟩
      obtain ⟨rfl, hrest⟩ := List.cons.inj hpair
      obtain rfl : b = d := (List.cons.inj hrest).1
      have := (range_of_hexValue? hhigh).1
      have := (range_of_hexValue? hlow).1
      exact ⟨_, (hexadecimal?_pair_eq_some_iff a b _).mpr ⟨high, low, hhigh, hlow, rfl⟩,
        (hvalue _ (by omega)).mpr hchannel⟩

/-- A channel takes two characters. -/
theorem exists_pair_of_isChannel
    {digits : List Char} {channel : UInt8}
    (h : IsChannel digits channel) :
    ∃ a b, digits = [a, b] := by
  rcases h with ⟨a, b, high, low, hpair, -⟩ | ⟨b, low, hpair, -⟩
  · exact ⟨a, b, hpair⟩
  · exact ⟨'+', b, hpair⟩

/-- A hexadecimal digit is a visible ASCII character and no sign. -/
theorem plain_of_hexValue?
    {c : Char} {n : Nat}
    (h : Text.hexValue? c = some n) :
    Text.isBlank c = false ∧ c ≠ '#' ∧ c ≠ '+' ∧ c.toNat < 0x80 := by
  have hrange := (range_of_hexValue? h).2
  refine ⟨?_, ?_, ?_, by omega⟩
  · simp [Text.isBlank]
    omega
  · rintro rfl
    simp at hrange
  · rintro rfl
    simp at hrange

/-- So are the characters of a channel, except for the plus sign. -/
theorem plain_of_isChannel
    {digits : List Char} {channel : UInt8} {c : Char}
    (h : IsChannel digits channel)
    (hc : c ∈ digits) :
    Text.isBlank c = false ∧ c ≠ '#' ∧ c.toNat < 0x80 := by
  have hdigit : ∀ {d n}, Text.hexValue? d = some n →
      Text.isBlank d = false ∧ d ≠ '#' ∧ d.toNat < 0x80 := by
    intro d n hd
    obtain ⟨hblank, hsign, -, hascii⟩ := plain_of_hexValue? hd
    exact ⟨hblank, hsign, hascii⟩
  rcases h with ⟨a, b, high, low, rfl, hhigh, hlow, -⟩ | ⟨b, low, rfl, hlow, -⟩
  · rcases List.mem_pair.mp hc with rfl | rfl
    · exact hdigit hhigh
    · exact hdigit hlow
  · rcases List.mem_pair.mp hc with rfl | rfl
    · decide
    · exact hdigit hlow

/-- A channel is a pair of digits exactly if no plus sign stands in it. -/
theorem isDigitPair_iff {digits : List Char} {channel : UInt8} :
    IsDigitPair digits channel ↔ IsChannel digits channel ∧ '+' ∉ digits := by
  constructor
  · intro h
    refine ⟨Or.inl h, ?_⟩
    obtain ⟨a, b, high, low, rfl, hhigh, hlow, -⟩ := h
    intro hplus
    rcases List.mem_pair.mp hplus with rfl | rfl
    · exact (plain_of_hexValue? hhigh).2.2.1 rfl
    · exact (plain_of_hexValue? hlow).2.2.1 rfl
  · rintro ⟨hpair | ⟨b, low, rfl, -⟩, hplus⟩
    · exact hpair
    · exact absurd List.mem_cons_self hplus

end Channels

section Surroundings

/-- **Blanks and one number sign are all that is taken away.** -/
theorem dropNumberSign_trim_eq_iff
    {digits : List Char}
    (hne : digits ≠ [])
    (hvisible : ∀ c ∈ digits, Text.isBlank c = false ∧ c ≠ '#')
    (cs : List Char) :
    dropNumberSign (Text.trim cs) = digits ↔ Surrounds cs digits := by
  constructor
  · intro h
    obtain ⟨before, after, hsplit, hbefore, hafter⟩ := Text.exists_eq_append_trim cs
    unfold dropNumberSign at h
    split at h
    · next rest htrim =>
      subst h
      exact ⟨before, ['#'], after, by rw [List.singleton_append, ← htrim, ← hsplit], hbefore,
        hafter, Or.inr rfl⟩
    · exact ⟨before, [], after, by rw [List.nil_append, ← h, ← hsplit], hbefore, hafter,
        Or.inl rfl⟩
  · rintro ⟨before, sign, after, rfl, hbefore, hafter, hsign⟩
    have hends : ∀ c ∈ sign ++ digits, Text.isBlank c = false := by
      intro c hc
      rcases List.mem_append.mp hc with hc | hc
      · rcases hsign with rfl | rfl
        · cases hc
        · rw [List.mem_singleton.mp hc]
          decide
      · exact (hvisible c hc).1
    rw [Text.trim_append_append hbefore hafter (fun c hc => hends c (List.mem_of_mem_head? hc))
      (fun c hc => hends c (List.mem_of_mem_getLast? hc))]
    rcases hsign with rfl | rfl
    · obtain ⟨c, rest, rfl⟩ := List.exists_cons_of_ne_nil hne
      have hc := (hvisible c List.mem_cons_self).2
      unfold dropNumberSign
      split
      · next heq => exact absurd (List.cons.inj heq).1 hc
      · rfl
    · rfl

end Surroundings

section Texts

variable {s : String} {color : Color}

/-- A text is read if six characters are left of it that are channels by twos. -/
theorem ofHex_eq_ok_iff_channelValue? :
    ofHex s = .ok color
      ↔
    ∃ r₁ r₂ g₁ g₂ b₁ b₂, dropNumberSign (Text.trim s.toList) = [r₁, r₂, g₁, g₂, b₁, b₂] ∧
      (∀ c ∈ [r₁, r₂, g₁, g₂, b₁, b₂], c.toNat < 0x80) ∧
      channelValue? r₁ r₂ = some color.red ∧ channelValue? g₁ g₂ = some color.green ∧
      channelValue? b₁ b₂ = some color.blue := by
  constructor
  · intro h
    unfold ofHex at h
    simp only at h
    split at h
    · next r₁ r₂ g₁ g₂ b₁ b₂ hsix =>
      split at h
      · next hascii =>
        refine ⟨r₁, r₂, g₁, g₂, b₁, b₂, hsix, ?_, ?_⟩
        · rw [hsix] at hascii
          simpa using hascii
        · unfold ofSixChars at h
          split at h
          · cases h
          · next red hred =>
            split at h
            · cases h
            · next green hgreen =>
              split at h
              · cases h
              · next blue hblue =>
                cases h
                exact ⟨hred, hgreen, hblue⟩
      · cases h
    · cases h
  · rintro ⟨r₁, r₂, g₁, g₂, b₁, b₂, hsix, hascii, hred, hgreen, hblue⟩
    have hall : ([r₁, r₂, g₁, g₂, b₁, b₂].all fun c => c.toNat < 0x80) = true := by
      simpa using hascii
    unfold ofHex
    simp only [hsix, hall, if_true, ofSixChars, hred, hgreen, hblue]

/-- What the reader takes for the channels of a colour is surrounded as it looks for it. -/
theorem dropNumberSign_trim_eq_iff_of_isChannel
    {red green blue : List Char}
    (hred : IsChannel red color.red)
    (hgreen : IsChannel green color.green)
    (hblue : IsChannel blue color.blue) :
    dropNumberSign (Text.trim s.toList) = red ++ green ++ blue
      ↔
    Surrounds s.toList (red ++ green ++ blue) := by
  refine dropNumberSign_trim_eq_iff ?_ ?_ _
  · obtain ⟨a, b, rfl⟩ := exists_pair_of_isChannel hred
    simp
  · intro c hc
    rw [List.mem_append, List.mem_append] at hc
    rcases hc with (hc | hc) | hc
    · exact (plain_of_isChannel hred hc).imp_right And.left
    · exact (plain_of_isChannel hgreen hc).imp_right And.left
    · exact (plain_of_isChannel hblue hc).imp_right And.left

/-- **The texts that are read as colours.** -/
theorem ofHex_eq_ok_iff_isTextOf : ofHex s = .ok color ↔ IsTextOf IsChannel s color := by
  rw [ofHex_eq_ok_iff_channelValue?]
  constructor
  · rintro ⟨r₁, r₂, g₁, g₂, b₁, b₂, hsix, -, hred, hgreen, hblue⟩
    rw [channelValue?_eq_some_iff] at hred hgreen hblue
    exact ⟨_, _, _, (dropNumberSign_trim_eq_iff_of_isChannel hred hgreen hblue).mp hsix, hred,
      hgreen, hblue⟩
  · rintro ⟨red, green, blue, hsurrounds, hred, hgreen, hblue⟩
    have hsix := (dropNumberSign_trim_eq_iff_of_isChannel hred hgreen hblue).mpr hsurrounds
    have hascii : ∀ c ∈ red ++ green ++ blue, c.toNat < 0x80 := by
      intro c hc
      rw [List.mem_append, List.mem_append] at hc
      rcases hc with (hc | hc) | hc
      · exact (plain_of_isChannel hred hc).2.2
      · exact (plain_of_isChannel hgreen hc).2.2
      · exact (plain_of_isChannel hblue hc).2.2
    obtain ⟨r₁, r₂, rfl⟩ := exists_pair_of_isChannel hred
    obtain ⟨g₁, g₂, rfl⟩ := exists_pair_of_isChannel hgreen
    obtain ⟨b₁, b₂, rfl⟩ := exists_pair_of_isChannel hblue
    exact ⟨r₁, r₂, g₁, g₂, b₁, b₂, hsix, hascii, (channelValue?_eq_some_iff _ _ _).mpr hred,
      (channelValue?_eq_some_iff _ _ _).mpr hgreen, (channelValue?_eq_some_iff _ _ _).mpr hblue⟩

/-- A plus sign in the text is one among the digits. -/
theorem plus_mem_iff_of_surrounds
    {cs digits : List Char}
    (h : Surrounds cs digits) :
    '+' ∈ cs ↔ '+' ∈ digits := by
  obtain ⟨before, sign, after, rfl, hbefore, hafter, hsign⟩ := h
  have hvisible : Text.isBlank '+' = false := by decide
  have hbefore' : '+' ∉ before := fun hmem => by
    rw [hbefore _ hmem] at hvisible
    cases hvisible
  have hafter' : '+' ∉ after := fun hmem => by
    rw [hafter _ hmem] at hvisible
    cases hvisible
  have hsign' : '+' ∉ sign := by
    rcases hsign with rfl | rfl
    · exact List.not_mem_nil
    · decide
  simp [hbefore', hafter', hsign']

/-- The documented texts are those without a plus sign. -/
theorem isTextOf_isDigitPair_iff :
    IsTextOf IsDigitPair s color ↔ IsTextOf IsChannel s color ∧ '+' ∉ s.toList := by
  constructor
  · rintro ⟨red, green, blue, hsurrounds, hred, hgreen, hblue⟩
    rw [isDigitPair_iff] at hred hgreen hblue
    refine ⟨⟨red, green, blue, hsurrounds, hred.1, hgreen.1, hblue.1⟩, ?_⟩
    rw [plus_mem_iff_of_surrounds hsurrounds]
    simp [hred.2, hgreen.2, hblue.2]
  · rintro ⟨⟨red, green, blue, hsurrounds, hred, hgreen, hblue⟩, hplus⟩
    rw [plus_mem_iff_of_surrounds hsurrounds] at hplus
    simp only [List.mem_append, not_or] at hplus
    exact ⟨red, green, blue, hsurrounds, isDigitPair_iff.mpr ⟨hred, hplus.1.1⟩,
      isDigitPair_iff.mpr ⟨hgreen, hplus.1.2⟩, isDigitPair_iff.mpr ⟨hblue, hplus.2⟩⟩

/-- **A text is read as a colour exactly if it writes one, where a plus sign may stand for the first
digit of a channel; without plus signs these are the texts of six hexadecimal digits.** -/
theorem ofHex_eq_ok_iff (s : String) (color : Color) :
    (ofHex s = .ok color ↔ IsTextOf IsChannel s color) ∧
      (IsTextOf IsDigitPair s color ↔ ofHex s = .ok color ∧ '+' ∉ s.toList) := by
  refine ⟨ofHex_eq_ok_iff_isTextOf, ?_⟩
  rw [ofHex_eq_ok_iff_isTextOf, isTextOf_isDigitPair_iff]

/-- **Plus signs are taken for digits.** -/
theorem ofHex_plusSigns :
    ofHex "+F+F+F" = .ok { red := 15, green := 15, blue := 15 } ∧
      ∀ color, ¬ IsTextOf IsDigitPair "+F+F+F" color := by
  refine ⟨by decide, ?_⟩
  intro color h
  exact (isTextOf_isDigitPair_iff.mp h).2 (by decide)

end Texts

end Color
end EpaperLayout
