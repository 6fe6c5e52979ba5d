import EpaperLayout.Text.Numeral
import EpaperLayout.Text.Utf8
import EpaperLayout.Text.Word
import Mathlib.Tactic

/-!
# Numerals are read back

Whole numbers are written in decimal digits without leading zeros, and a minus
sign stands before negative ones.  The bounded readers of `Text.Numeral` answer
with the number that was written, for all three types of numbers in a layout.

The second group of results says which characters a written number consists of;
the lexical arguments about markers and draw calls need nothing else of it.
-/

namespace EpaperLayout
namespace Text

/-- The digits of this library are the digits of the core. -/
theorem isDigit_eq (c : Char) : isDigit c = c.isDigit := by
  simp [isDigit, Char.isDigit, Char.le_def]

theorem isDigit_of_mem_toDigits
    {c : Char} {n : Nat}
    (h : c ∈ Nat.toDigits 10 n) :
    isDigit c = true := by
  rw [isDigit_eq]
  exact Nat.isDigit_of_mem_toDigits (by decide) (by decide) h

theorem utf8Size_of_isDigit
    {c : Char}
    (h : isDigit c = true) :
    c.utf8Size = 1 := by
  rw [isDigit, Bool.and_eq_true, decide_eq_true_eq, decide_eq_true_eq] at h
  exact Char.utf8Size_eq_one_iff.mpr (Nat.le_trans h.2 (by decide))

theorem isAnyDigit_of_isDigit
    {c : Char}
    (h : isDigit c = true) :
    isAnyDigit c = true := by
  have hsmall : c.toNat < 0x80 := by
    have hc := h
    rw [isDigit, Bool.and_eq_true, decide_eq_true_eq, decide_eq_true_eq] at hc
    exact Nat.lt_of_le_of_lt hc.2 (by decide)
  rw [isAnyDigit, if_pos hsmall, h]

/-- Digits are one byte each. -/
theorem byteSize_toDigits (n : Nat) :
    byteSize (Nat.toDigits 10 n) = (Nat.toDigits 10 n).length := by
  have hsize : ∀ cs : List Char, (∀ c ∈ cs, isDigit c = true) → byteSize cs = cs.length := by
    intro cs h
    induction cs with
    | nil =>
        rfl
    | cons c cs ih =>
        have hrest := ih fun d hd => h d (List.mem_cons_of_mem _ hd)
        rw [byteSize_cons, utf8Size_of_isDigit (h c List.mem_cons_self), hrest, List.length_cons,
          Nat.add_comm]
  exact hsize _ fun c hc => isDigit_of_mem_toDigits hc

/-- Both folds over decimal digits give the same number. -/
theorem ofDigits_map_digitValue (cs : List Char) :
    ofDigits 10 (cs.map digitValue) = Nat.ofDigitChars 10 cs 0 := by
  simp [ofDigits, Nat.ofDigitChars_eq_foldl, List.foldl_map, digitValue, Nat.mul_comm]

@[simp] theorem decimal?_toDigits (n : Nat) :
    decimal? (Nat.toDigits 10 n) = some n := by
  have hall : (Nat.toDigits 10 n).all isDigit = true := by
    rw [List.all_eq_true]
    intro c hc
    exact isDigit_of_mem_toDigits hc
  have hne : (Nat.toDigits 10 n).isEmpty = false := by
    simp [List.isEmpty_eq_false_iff]
  rw [decimal?, hne, hall]
  simp [ofDigits_map_digitValue]

/-- The digits of a number determine it. -/
theorem toDigits_injective : Function.Injective (Nat.toDigits 10) := by
  intro m n h
  have hread : decimal? (Nat.toDigits 10 m) = decimal? (Nat.toDigits 10 n) := by
    rw [h]
  simpa using hread

/-- The text of a natural number has a first character, and it is a digit. -/
theorem exists_digit_cons_eq_toDigits (n : Nat) :
    ∃ c rest, Nat.toDigits 10 n = c :: rest ∧ isDigit c = true := by
  cases h : Nat.toDigits 10 n with
  | nil =>
      exact absurd h Nat.toDigits_ne_nil
  | cons c rest =>
      exact ⟨c, rest, rfl, isDigit_of_mem_toDigits (n := n) (by simp [h])⟩

theorem unsigned?_toDigits
    {bound n : Nat}
    (h : n < bound) :
    unsigned? bound (Nat.toDigits 10 n) = some n := by
  obtain ⟨c, rest, heq, hc⟩ := exists_digit_cons_eq_toDigits n
  have hplus : c ≠ '+' := by
    rintro rfl
    simp [isDigit] at hc
  have hdecimal : decimal? (c :: rest) = some n := by
    rw [← heq, decimal?_toDigits]
  rw [heq, unsigned?.eq_2 _ _ (fun _ heq' => hplus (List.cons.inj heq').1)]
  simp [hdecimal, h]

theorem uint32?_toDigits (x : UInt32) :
    uint32? (Nat.toDigits 10 x.toNat) = some x := by
  simp [uint32?, unsigned?_toDigits (UInt32.toNat_lt_size x)]

theorem uint16?_toDigits (x : UInt16) :
    uint16? (Nat.toDigits 10 x.toNat) = some x := by
  simp [uint16?, unsigned?_toDigits (UInt16.toNat_lt_size x)]

theorem lt_of_mem_paddedDigits
    {base width n digit : Nat}
    (hbase : 0 < base)
    (h : digit ∈ paddedDigits base width n) :
    digit < base := by
  induction width generalizing n with
  | zero =>
      simp [paddedDigits] at h
  | succ width ih =>
      rw [paddedDigits, List.mem_append, List.mem_singleton] at h
      rcases h with h | rfl
      · exact ih h
      · exact Nat.mod_lt _ hbase

/-- A whole number is written with its digits, after a minus sign if it is negative. -/
theorem toList_repr_int (i : Int) :
    i.repr.toList =
      if 0 ≤ i then Nat.toDigits 10 i.toNat
      else '-' :: Nat.toDigits 10 (-i).toNat := by
  rw [Int.repr_eq_if]
  split <;> simp

@[simp] theorem toList_repr_natCast (n : Nat) :
    (n : Int).repr.toList = Nat.toDigits 10 n := by
  simp [toList_repr_int]

theorem signed?_repr
    {bound : Nat} {i : Int}
    (hlow : -(bound : Int) ≤ i)
    (hhigh : i < bound) :
    signed? bound i.repr.toList = some i := by
  rw [toList_repr_int]
  split
  · next hi =>
    obtain ⟨c, rest, heq, hc⟩ := exists_digit_cons_eq_toDigits i.toNat
    have hminus : c ≠ '-' := by
      rintro rfl
      simp [isDigit] at hc
    have hread : unsigned? bound (c :: rest) = some i.toNat := by
      rw [← heq]
      exact unsigned?_toDigits (by omega)
    rw [heq, signed?.eq_2 _ _ (fun _ heq' => hminus (List.cons.inj heq').1)]
    simp [hread, hi]
  · next hi =>
    have hle : (-i).toNat ≤ bound := by omega
    have hcast : (((-i).toNat : Nat) : Int) = -i := by omega
    simp only [signed?, decimal?_toDigits, hle, if_true, hcast, neg_neg]

theorem int32?_repr (x : Int32) :
    int32? x.toInt.repr.toList = some x := by
  have hlow : -((Nat.pow 2 31 : Nat) : Int) ≤ x.toInt := by
    have := x.le_toInt
    simpa using this
  have hhigh : x.toInt < ((Nat.pow 2 31 : Nat) : Int) := by
    have := x.toInt_lt
    simpa using this
  simp only [int32?, signed?_repr hlow hhigh, Option.map_some, Int32.ofInt_toInt]

/-- A written number holds digits, and perhaps a minus sign. -/
theorem isDigit_or_minus_of_mem_repr
    {c : Char} {i : Int}
    (h : c ∈ i.repr.toList) :
    isDigit c = true ∨ c = '-' := by
  rw [toList_repr_int] at h
  split at h
  · exact Or.inl (isDigit_of_mem_toDigits h)
  · rcases List.mem_cons.mp h with rfl | h
    · exact Or.inr rfl
    · exact Or.inl (isDigit_of_mem_toDigits h)

theorem toList_repr_int_ne_nil (i : Int) : i.repr.toList ≠ [] := by
  rw [toList_repr_int]
  split
  · exact Nat.toDigits_ne_nil
  · simp

end Text
end EpaperLayout
