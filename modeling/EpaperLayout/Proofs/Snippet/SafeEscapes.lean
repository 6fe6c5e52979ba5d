import EpaperLayout.Proofs.Snippet.EscapedText
import Mathlib.Algebra.Group.Nat.Even

/-!
# Escaped text is safe

Escaped text stands between quotes, in a comment or in a literal, on one line of a
document.  What makes it safe there can be said of its characters alone: none of
them ends a line or is refused by a document, and by the runs of backslashes in it
every quote is escaped while the closing quote is not.

**Parity.**  A reader takes each backslash together with the character behind it, so
only the parity of the number of backslashes in a row matters.  In closed text a
quote comes after an odd number of them, and an even number stands at the end.

**Results.**
* `trailingBackslashes_append`: the runs at the end of two texts put together.
* `Closed.even_trailingBackslashes`, `Closed.odd_trailingBackslashes`: the parity of
  the runs in closed text.
* `escape_append`: texts are escaped independently of each other.
* `isSafe_escape`: escaped text is safe and is read back, whatever escaped text
  follows it.
-/

namespace EpaperLayout
namespace Snippet

/-- The number of backslashes at the end of a text. -/
def trailingBackslashes (cs : List Char) : Nat :=
  (cs.reverse.takeWhile fun c => c = '\\').length

/-- Text that ends neither its line nor the quotes around it. -/
structure IsSafe (cs : List Char) : Prop where
  /-- No character is a control character or one of those that end a line or are refused. -/
  clean : ∀ c ∈ cs,
    Text.isControl c = false ∧ c.toNat ∉ [0x2028, 0x2029, 0xFEFF, 0xFFFE, 0xFFFF]
  /-- Every quote is escaped. -/
  quote : ∀ before after, cs = before ++ '"' :: after → Odd (trailingBackslashes before)
  /-- A quote behind the text is not escaped. -/
  ending : Even (trailingBackslashes cs)

section Runs

/-- The run at the end is that of the second text, and goes on into the first one if the second
consists of backslashes. -/
theorem trailingBackslashes_append (first second : List Char) :
    trailingBackslashes (first ++ second) = trailingBackslashes second ∨
      trailingBackslashes (first ++ second) =
        trailingBackslashes first + trailingBackslashes second := by
  unfold trailingBackslashes
  rw [List.reverse_append, List.takeWhile_append]
  split
  · next hall =>
    right
    rw [List.length_append, hall]
    exact Nat.add_comm _ _
  · exact Or.inl rfl

/-- An even run in front does not change the parity. -/
theorem even_trailingBackslashes_append
    {first : List Char}
    (hfirst : Even (trailingBackslashes first))
    (second : List Char) :
    Even (trailingBackslashes (first ++ second)) ↔ Even (trailingBackslashes second) := by
  rcases trailingBackslashes_append first second with heq | heq
  · rw [heq]
  · rw [heq, Nat.even_add, iff_true_left hfirst]

/-- A backslash with the character it takes along leaves no run of its own. -/
theorem even_trailingBackslashes_pair (d : Char) :
    Even (trailingBackslashes ['\\', d]) := by
  by_cases hd : d = '\\'
  · rw [hd]
    decide
  · simp [trailingBackslashes, hd]

theorem even_trailingBackslashes_plain
    {c : Char}
    (hc : c ≠ '\\') :
    Even (trailingBackslashes [c]) := by
  simp [trailingBackslashes, hc]

namespace Closed

/-- **Closed text ends with an even number of backslashes.** -/
theorem even_trailingBackslashes
    {text : List Char}
    (h : Closed text) :
    Even (trailingBackslashes text) := by
  induction h with
  | nil =>
      exact Even.zero
  | @plain c rest _ hbackslash _ _ ih =>
      exact (even_trailingBackslashes_append
        (even_trailingBackslashes_plain hbackslash) rest).mpr ih
  | @pair d rest _ _ ih =>
      exact (even_trailingBackslashes_append (even_trailingBackslashes_pair d) rest).mpr ih

/-- **A quote in closed text comes after an odd number of backslashes.** -/
theorem odd_trailingBackslashes
    {text before after : List Char}
    (h : Closed text)
    (hsplit : text = before ++ '"' :: after) :
    Odd (trailingBackslashes before) := by
  rw [← Nat.not_even_iff_odd]
  induction h generalizing before with
  | nil =>
      simp at hsplit
  | @plain c rest hquote hbackslash _ _ ih =>
      cases before with
      | nil =>
          exact absurd (List.cons.inj hsplit).1 hquote
      | cons b before =>
          obtain ⟨rfl, hrest⟩ := List.cons.inj hsplit
          have hparity := even_trailingBackslashes_append
            (even_trailingBackslashes_plain hbackslash) before
          exact fun heven => ih hrest (hparity.mp heven)
  | @pair d rest _ _ ih =>
      match before with
      | [] =>
          exact absurd (List.cons.inj hsplit).1 (by decide)
      | [b] =>
          -- the quote is the character that the backslash takes along
          obtain ⟨rfl, -⟩ := List.cons.inj hsplit
          decide
      | b :: e :: before =>
          obtain ⟨rfl, hbehind⟩ := List.cons.inj hsplit
          obtain ⟨rfl, hrest⟩ := List.cons.inj hbehind
          have hparity := even_trailingBackslashes_append
            (even_trailingBackslashes_pair d) before
          exact fun heven => ih hrest (hparity.mp heven)

end Closed

end Runs

section Escape

/-- What need not be written byte by byte is neither a control character nor one of those that end
a line or are refused. -/
theorem not_isControl_of_needsOctal_eq_false
    {c : Char}
    (h : needsOctal c = false) :
    Text.isControl c = false ∧ c.toNat ∉ [0x2028, 0x2029, 0xFEFF, 0xFFFE, 0xFFFF] := by
  simp only [needsOctal, Bool.or_eq_false_iff, beq_eq_false_iff_ne] at h
  obtain ⟨⟨⟨⟨⟨hcontrol, hline⟩, hparagraph⟩, hmark⟩, hfffe⟩, hffff⟩ := h
  refine ⟨hcontrol, ?_⟩
  simp only [List.mem_cons, List.not_mem_nil, or_false, not_or]
  exact ⟨hline, hparagraph, hmark, hfffe, hffff⟩

/-- **Texts are escaped independently of each other.** -/
theorem escape_append (v w : String) : escape v ++ escape w = escape (v ++ w) := by
  rw [escape, escape, escape, ← String.ofList_append, String.toList_append, escapeChars,
    escapeChars, escapeChars, List.flatMap_append]

theorem unescape_escape (v : String) : unescape (escape v) = .ok v := by
  rw [unescape, escape, String.toList_ofList, unescapeChars_escapeChars]
  exact congrArg Except.ok String.ofList_toList

/-- **Escaped text is safe and is read back**, whatever escaped text follows it. -/
theorem isSafe_escape :
    (∀ v, unescape (escape v) = .ok v ∧ IsSafe (escape v).toList) ∧
      ∀ v w, unescape (escape v ++ escape w) = .ok (v ++ w) := by
  constructor
  · intro v
    have hclosed := closed_escapeChars v.toList
    refine ⟨unescape_escape v, ?_⟩
    rw [escape, String.toList_ofList]
    exact {
      clean := fun c hc =>
        not_isControl_of_needsOctal_eq_false (clean_escapeChars v.toList c hc)
      quote := fun before after hsplit => hclosed.odd_trailingBackslashes hsplit
      ending := hclosed.even_trailingBackslashes }
  · intro v w
    rw [escape_append, unescape_escape]

end Escape

end Snippet
end EpaperLayout
