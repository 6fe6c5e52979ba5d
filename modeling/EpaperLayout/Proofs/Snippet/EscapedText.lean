import EpaperLayout.Snippet.Lambda
import EpaperLayout.Snippet.Marker
import Mathlib.Tactic

/-!
# Escaped text between quotes

Escaped text is *closed*: it is made of characters that mean nothing to a reader
of literals and of backslashes, each with the character it takes along.  So the
first quote that a reader finds is the one that was written behind the text, and
no character of the text ends a line.  A reader of markers does not mind line feeds:
for it the text need only be *sealed*.

**Results.**
* `closed_escapeChars`, `clean_escapeChars`: escaped text is closed, and no character of
  it would have to be written byte by byte.
* `Closed.splitQuoted_eq`, `Sealed.splitAtQuote?_eq`: closed text ends at the quote
  written behind it in a routine, and sealed text in a marker.
* `unescapeChars_escapeChars`: escaped text is read back.
-/

namespace EpaperLayout
namespace Snippet

/-- Text that holds no quote and no backslash of its own. -/
inductive Sealed : List Char → Prop
  | nil :
      Sealed []
  | plain {c : Char} {rest : List Char} :
      c ≠ '"' →
      c ≠ '\\' →
      Sealed rest →
      Sealed (c :: rest)
  | pair {d : Char} {rest : List Char} :
      Sealed rest →
      Sealed ('\\' :: d :: rest)

/-- Text that holds no quote, no line feed and no backslash of its own. -/
inductive Closed : List Char → Prop
  | nil :
      Closed []
  | plain {c : Char} {rest : List Char} :
      c ≠ '"' →
      c ≠ '\\' →
      c ≠ '\n' →
      Closed rest →
      Closed (c :: rest)
  | pair {d : Char} {rest : List Char} :
      d ≠ '\n' →
      Closed rest →
      Closed ('\\' :: d :: rest)

/-- Text without control characters and line breaks of any kind. -/
def Clean (cs : List Char) : Prop :=
  ∀ c ∈ cs, needsOctal c = false

instance (cs : List Char) : Decidable (Clean cs) :=
  inferInstanceAs (Decidable (∀ c ∈ cs, needsOctal c = false))

theorem Clean.append
    {first second : List Char}
    (hfirst : Clean first)
    (hsecond : Clean second) :
    Clean (first ++ second) := by
  intro c hc
  rcases List.mem_append.mp hc with hc | hc
  · exact hfirst c hc
  · exact hsecond c hc

/-- Printable characters of ASCII are clean. -/
theorem needsOctal_of_printable
    {c : Char}
    (hlow : 0x20 ≤ c.toNat)
    (hhigh : c.toNat ≤ 0x7E) :
    needsOctal c = false := by
  simp only [needsOctal, Text.isControl, Bool.or_eq_false_iff, Bool.and_eq_false_iff,
    beq_eq_false_iff_ne, decide_eq_false_iff_not]
  omega

/-- A quoted value of sealed text ends with its closing quote. -/
theorem Sealed.splitAtQuote?_eq
    {text : List Char}
    (h : Sealed text)
    (rest : List Char) :
    splitAtQuote? (text ++ '"' :: rest) = some (text, rest) := by
  induction h with
  | nil =>
      rw [List.nil_append, splitAtQuote?.eq_def]
      rfl
  | plain hquote hbackslash _ ih =>
      rw [List.cons_append, splitAtQuote?.eq_def]
      simp only [hquote, hbackslash, if_false, ih]
  | pair _ ih =>
      rw [List.cons_append, List.cons_append, splitAtQuote?.eq_def]
      simp only [ih]
      rfl

namespace Closed

theorem append
    {first second : List Char}
    (hfirst : Closed first)
    (hsecond : Closed second) :
    Closed (first ++ second) := by
  induction hfirst with
  | nil =>
      exact hsecond
  | plain hquote hbackslash hfeed _ ih =>
      exact ih.plain hquote hbackslash hfeed
  | pair hfeed _ ih =>
      exact ih.pair hfeed

theorem flatMap
    {α : Type} {items : List α} {text : α → List Char}
    (h : ∀ item ∈ items, Closed (text item)) :
    Closed (items.flatMap text) := by
  induction items with
  | nil =>
      exact Closed.nil
  | cons item rest ih =>
      rw [List.flatMap_cons]
      refine (h item List.mem_cons_self).append (ih ?_)
      intro other hother
      exact h other (List.mem_cons_of_mem _ hother)

/-- Text of characters that mean nothing is closed. -/
theorem of_plain
    {text : List Char}
    (h : ∀ c ∈ text, c ≠ '"' ∧ c ≠ '\\' ∧ c ≠ '\n') :
    Closed text := by
  induction text with
  | nil =>
      exact Closed.nil
  | cons c rest ih =>
      obtain ⟨hquote, hbackslash, hfeed⟩ := h c List.mem_cons_self
      refine (ih ?_).plain hquote hbackslash hfeed
      intro d hd
      exact h d (List.mem_cons_of_mem _ hd)

theorem newline_notMem
    {text : List Char}
    (h : Closed text) :
    '\n' ∉ text := by
  induction h with
  | nil =>
      exact List.not_mem_nil
  | plain _ _ hfeed _ ih =>
      rw [List.mem_cons, not_or]
      exact ⟨hfeed.symm, ih⟩
  | pair hfeed _ ih =>
      rw [List.mem_cons, List.mem_cons, not_or, not_or]
      exact ⟨by decide, hfeed.symm, ih⟩

/-- A literal of closed text ends with its closing quote. -/
theorem splitQuoted_eq
    {text : List Char}
    (h : Closed text)
    (rest : List Char) :
    splitQuoted '"' (text ++ '"' :: rest) = (text ++ ['"'], rest) := by
  induction h with
  | nil =>
      rw [List.nil_append, splitQuoted.eq_def]
      rfl
  | plain hquote hbackslash hfeed _ ih =>
      rw [List.cons_append, splitQuoted.eq_def]
      simp only [hquote, hfeed, hbackslash, if_false, ih, List.cons_append]
  | pair _ _ ih =>
      rw [List.cons_append, List.cons_append, splitQuoted.eq_def]
      simp only [ih, List.cons_append]
      rfl

/-- Closed text holds no quote of its own. -/
theorem sealed
    {text : List Char}
    (h : Closed text) :
    Sealed text := by
  induction h with
  | nil =>
      exact Sealed.nil
  | plain hquote hbackslash _ _ ih =>
      exact ih.plain hquote hbackslash
  | pair _ _ ih =>
      exact ih.pair

end Closed

section Octal

/-- A byte is written with three octal digits, which no letter escape begins with. -/
theorem exists_octalByte_eq (byte : UInt8) :
    ∃ a b c, Text.octalByte byte = [a, b, c] ∧
      Text.isOctalDigit a = true ∧ Text.isOctalDigit b = true ∧ Text.isOctalDigit c = true ∧
      letterEscape? a = none ∧ octalValue [a, b, c] = .ok byte := by
  have hall : ∀ n : Fin 256,
      (Text.octalByte (UInt8.ofNat n)).length = 3 ∧
        (Text.octalByte (UInt8.ofNat n)).all Text.isOctalDigit = true ∧
        letterEscape? ((Text.octalByte (UInt8.ofNat n)).headD '0') = none ∧
        octalValue (Text.octalByte (UInt8.ofNat n)) = .ok (UInt8.ofNat n) := by
    decide +kernel
  have hbyte := hall ⟨byte.toNat, byte.toNat_lt⟩
  rw [UInt8.ofNat_toNat] at hbyte
  obtain ⟨hlength, hdigits, hletter, hvalue⟩ := hbyte
  obtain ⟨a, b, c, heq⟩ := List.length_eq_three.mp hlength
  rw [heq] at hdigits hletter hvalue
  simp only [List.all_cons, List.all_nil, Bool.and_true, Bool.and_eq_true] at hdigits
  exact ⟨a, b, c, heq, hdigits.1, hdigits.2.1, hdigits.2.2, hletter, hvalue⟩

theorem ne_of_isOctalDigit
    {c : Char}
    (h : Text.isOctalDigit c = true) :
    c ≠ '"' ∧ c ≠ '\\' ∧ c ≠ '\n' := by
  refine ⟨?_, ?_, ?_⟩
  all_goals
    rintro rfl
    revert h
    decide

/-- An octal escape is read back, whatever follows it. -/
theorem unescapeBytes_octal (byte : UInt8) (rest : List Char) :
    unescapeBytes ('\\' :: Text.octalByte byte ++ rest) =
      (unescapeBytes rest).map (byte :: ·) := by
  obtain ⟨a, b, c, heq, ha, hb, hc, hletter, hvalue⟩ := exists_octalByte_eq byte
  have htake : takeOctal 2 (b :: c :: rest) = ([b, c], rest) := by
    simp [takeOctal, hb, hc]
  rw [heq]
  change unescapeBytes ('\\' :: a :: b :: c :: rest) = _
  rw [unescapeBytes]
  simp only [ne_eq, not_true_eq_false, if_false, hletter, ha, if_true, htake, hvalue]
  cases unescapeBytes rest <;> rfl

end Octal

section Escape

theorem closed_escapeChar (c : Char) : Closed (escapeChar c) := by
  unfold escapeChar
  split
  · exact Closed.nil.pair (by decide)
  · next hbackslash =>
    split
    · exact Closed.nil.pair (by decide)
    · next hquote =>
      split
      · exact Closed.nil.pair (by decide)
      · next hfeed =>
        split
        · exact Closed.nil.pair (by decide)
        · split
          · exact Closed.nil.pair (by decide)
          · split
            · refine Closed.flatMap ?_
              intro byte _
              obtain ⟨a, b, d, heq, ha, hb, hd, -⟩ := exists_octalByte_eq byte
              rw [heq]
              refine Closed.pair (ne_of_isOctalDigit ha).2.2 (Closed.of_plain ?_)
              intro e he
              rcases List.mem_cons.mp he with rfl | he
              · exact ne_of_isOctalDigit hb
              · rw [List.mem_singleton] at he
                rw [he]
                exact ne_of_isOctalDigit hd
            · exact Closed.nil.plain hquote hbackslash hfeed

/-- **Escaped text is closed.** -/
theorem closed_escapeChars (cs : List Char) : Closed (escapeChars cs) :=
  Closed.flatMap fun c _ => closed_escapeChar c

theorem clean_escapeChar (c : Char) : Clean (escapeChar c) := by
  have hpair : ∀ d ∈ ['\\', '"', 'n', 'r', 't'], Clean ['\\', d] := by
    decide
  unfold escapeChar
  split
  · exact hpair _ (by simp)
  · split
    · exact hpair _ (by simp)
    · split
      · exact hpair _ (by simp)
      · split
        · exact hpair _ (by simp)
        · split
          · exact hpair _ (by simp)
          · split
            · intro d hd
              obtain ⟨byte, -, hbyte⟩ := List.mem_flatMap.mp hd
              obtain ⟨a, b, e, heq, ha, hb, he, -⟩ := exists_octalByte_eq byte
              have hdigit : ∀ x, Text.isOctalDigit x = true → needsOctal x = false := by
                intro x hx
                simp only [Text.isOctalDigit, Bool.and_eq_true, decide_eq_true_eq, Char.le_def,
                  UInt32.le_iff_toNat_le] at hx
                exact needsOctal_of_printable (Nat.le_trans (by decide) hx.1)
                  (Nat.le_trans hx.2 (by decide))
              rw [heq] at hbyte
              simp only [List.mem_cons, List.not_mem_nil, or_false] at hbyte
              rcases hbyte with rfl | rfl | rfl | rfl
              · decide
              · exact hdigit _ ha
              · exact hdigit _ hb
              · exact hdigit _ he
            · next hclean =>
              intro d hd
              rw [List.mem_singleton] at hd
              rw [hd]
              exact Bool.eq_false_iff.mpr hclean

/-- **Escaped text is clean.** -/
theorem clean_escapeChars (cs : List Char) : Clean (escapeChars cs) := by
  intro d hd
  obtain ⟨c, -, hmem⟩ := List.mem_flatMap.mp hd
  exact clean_escapeChar c d hmem

theorem unescapeBytes_letter
    {d c : Char}
    (h : letterEscape? d = some c)
    (rest : List Char) :
    unescapeBytes ('\\' :: d :: rest) =
      (unescapeBytes rest).map (String.utf8EncodeChar c ++ ·) := by
  rw [unescapeBytes]
  simp only [ne_eq, not_true_eq_false, if_false, h]
  cases unescapeBytes rest <;> rfl

theorem unescapeBytes_octals (bytes : List UInt8) (rest : List Char) :
    unescapeBytes (bytes.flatMap (fun byte => '\\' :: Text.octalByte byte) ++ rest) =
      (unescapeBytes rest).map (bytes ++ ·) := by
  induction bytes with
  | nil =>
      cases h : unescapeBytes rest <;> simp [h, Except.map]
  | cons byte bytes ih =>
      rw [List.flatMap_cons, List.append_assoc, unescapeBytes_octal, ih]
      cases unescapeBytes rest <;> rfl

/-- An escaped character in front of any text stands for its bytes. -/
theorem unescapeBytes_escapeChar (c : Char) (rest : List Char) :
    unescapeBytes (escapeChar c ++ rest) =
      (unescapeBytes rest).map (String.utf8EncodeChar c ++ ·) := by
  unfold escapeChar
  split
  · next h =>
    rw [h]
    exact unescapeBytes_letter rfl rest
  · next hbackslash =>
    split
    · next h =>
      rw [h]
      exact unescapeBytes_letter rfl rest
    · split
      · next h =>
        rw [h]
        exact unescapeBytes_letter rfl rest
      · split
        · next h =>
          rw [h]
          exact unescapeBytes_letter rfl rest
        · split
          · next h =>
            rw [h]
            exact unescapeBytes_letter rfl rest
          · split
            · exact unescapeBytes_octals _ rest
            · rw [List.singleton_append, unescapeBytes.eq_def]
              simp only [ne_eq, hbackslash, not_false_eq_true, if_true]
              cases unescapeBytes rest <;> rfl

theorem unescapeBytes_escapeChars (cs : List Char) :
    unescapeBytes (escapeChars cs) = .ok (Text.encode cs) := by
  induction cs with
  | nil =>
      simp [escapeChars, unescapeBytes, Text.encode]
  | cons c rest ih =>
      rw [escapeChars, List.flatMap_cons, unescapeBytes_escapeChar]
      change (unescapeBytes (escapeChars rest)).map _ = _
      rw [ih]
      rfl

/-- **Escaped text is read back.** -/
theorem unescapeChars_escapeChars (cs : List Char) :
    unescapeChars (escapeChars cs) = .ok cs := by
  have hbytes := unescapeBytes_escapeChars cs
  simp only [unescapeChars, hbytes, bind, Except.bind, Text.decode?_encode]
  rfl

end Escape

end Snippet
end EpaperLayout
