import EpaperLayout.Proofs.Snippet.EscapedText
import EpaperLayout.Proofs.Success

/-!
# The grammar of escaped text

What may stand between the quotes of a value, said without a reader: characters
other than the quote and the backslash, five escapes with a letter, and octal escapes
of up to three digits for a byte each.

**Two readers.**  The closing quote is found first, by a reader for which every
backslash takes one character along.  The text before it is then read again, and
there an octal escape takes up to three characters.  The two agree on where the text
ends, since no octal digit is a quote or a backslash: what the first reader cuts off
is sealed, and sealed text is what the second one takes apart.

**Results.**
* `splitAtQuote?_eq_some_iff`: the closing quote ends the sealed text before it.
* `takeOctal_spec`, `takeOctal_append`: an octal escape takes as many digits as there
  are, up to a number of them.
* `unescapeBytes_eq_ok_iff`: the bytes that are read of sealed text are those of the
  grammar.
* `unescapeChars_eq_ok_iff`: the text that is read has these bytes.
-/

namespace EpaperLayout

namespace Text

/-- Bytes are those of a text exactly if the text is read from them. -/
theorem decode?_eq_some_iff
    {bytes : List UInt8} {cs : List Char} :
    decode? bytes = some cs ↔ encode cs = bytes := by
  constructor
  · intro h
    obtain ⟨chars, hchars, rfl⟩ := Option.map_eq_some_iff.mp h
    have hsome : bytes.toByteArray.utf8Decode?.isSome = true := by
      rw [hchars]
      rfl
    have hencode := ByteArray.utf8Encode_get_utf8Decode? (h := hsome)
    simp only [hchars, Option.get_some] at hencode
    exact List.toByteArray_inj.mp hencode
  · rintro rfl
    exact decode?_encode cs

end Text

namespace Snippet

/-- The letters that stand for a character behind a backslash, each with its character. -/
def letterEscapes : List (Char × Char) :=
  [('\\', '\\'), ('"', '"'), ('n', '\n'), ('r', '\r'), ('t', '\t')]

/-- The number that octal digits write. -/
def octalNumber (digits : List Char) : Nat :=
  Text.ofDigits 8 (digits.map Text.digitValue)

/-- The digits of an octal escape before the given text. -/
structure IsOctalEscape (digits rest : List Char) : Prop where
  ne_nil : digits ≠ []
  length_le : digits.length ≤ 3
  isOctalDigit : ∀ d ∈ digits, Text.isOctalDigit d = true
  /-- The escape takes all digits it can. -/
  longest : digits.length = 3 ∨ ∀ d ∈ rest.head?, Text.isOctalDigit d = false
  isByte : octalNumber digits ≤ 255

/-- Escaped text, as it stands between quotes, and the bytes that it stands for. -/
inductive EscapedBytes : List Char → List UInt8 → Prop
  | nil :
      EscapedBytes [] []
  | plain {c : Char} {raw : List Char} {bytes : List UInt8} :
      c ≠ '"' →
      c ≠ '\\' →
      EscapedBytes raw bytes →
      EscapedBytes (c :: raw) (String.utf8EncodeChar c ++ bytes)
  | letter {d c : Char} {raw : List Char} {bytes : List UInt8} :
      (d, c) ∈ letterEscapes →
      EscapedBytes raw bytes →
      EscapedBytes ('\\' :: d :: raw) (String.utf8EncodeChar c ++ bytes)
  | octal {digits raw : List Char} {bytes : List UInt8} :
      IsOctalEscape digits raw →
      EscapedBytes raw bytes →
      EscapedBytes ('\\' :: (digits ++ raw)) (UInt8.ofNat (octalNumber digits) :: bytes)

section ClosingQuote

/-- **The closing quote ends the sealed text before it.** -/
theorem splitAtQuote?_eq_some_iff
    {cs raw following : List Char} :
    splitAtQuote? cs = some (raw, following) ↔ cs = raw ++ '"' :: following ∧ Sealed raw := by
  constructor
  · intro h
    fun_induction splitAtQuote? cs generalizing raw following with
    | case1 =>
        cases h
    | case2 rest =>
        cases h
        exact ⟨rfl, Sealed.nil⟩
    | case3 =>
        cases h
    | case4 d rest raw' following' hsplit hquote ih =>
        obtain ⟨rfl, hsealed⟩ := ih hsplit
        cases h
        exact ⟨rfl, hsealed.pair⟩
    | case5 d rest hnone hquote ih =>
        cases h
    | case6 c rest hquote hbackslash raw' following' hsplit ih =>
        obtain ⟨rfl, hsealed⟩ := ih hsplit
        cases h
        exact ⟨rfl, hsealed.plain hquote hbackslash⟩
    | case7 c rest hquote hbackslash hnone ih =>
        cases h
  · rintro ⟨rfl, hsealed⟩
    exact hsealed.splitAtQuote?_eq following

theorem sealed_cons_iff
    {c : Char} {rest : List Char}
    (hquote : c ≠ '"')
    (hbackslash : c ≠ '\\') :
    Sealed (c :: rest) ↔ Sealed rest := by
  constructor
  · intro h
    cases h with
    | plain _ _ hrest => exact hrest
    | pair _ => exact absurd rfl hbackslash
  · exact Sealed.plain hquote hbackslash

/-- Octal digits mean nothing to the reader of the closing quote. -/
theorem sealed_octalDigits_append_iff
    {digits : List Char}
    (hdigits : ∀ d ∈ digits, Text.isOctalDigit d = true)
    (rest : List Char) :
    Sealed (digits ++ rest) ↔ Sealed rest := by
  induction digits with
  | nil =>
      exact Iff.rfl
  | cons d digits ih =>
      rw [List.forall_mem_cons] at hdigits
      obtain ⟨hquote, hbackslash, -⟩ := ne_of_isOctalDigit hdigits.1
      rw [List.cons_append, sealed_cons_iff hquote hbackslash, ih hdigits.2]

end ClosingQuote

section Octal

/-- What is taken are octal digits, and as many as there are up to the count. -/
theorem takeOctal_spec (count : Nat) (cs : List Char) :
    cs = (takeOctal count cs).1 ++ (takeOctal count cs).2 ∧
      (takeOctal count cs).1.length ≤ count ∧
      (∀ d ∈ (takeOctal count cs).1, Text.isOctalDigit d = true) ∧
      ((takeOctal count cs).1.length = count ∨
        ∀ d ∈ (takeOctal count cs).2.head?, Text.isOctalDigit d = false) := by
  induction count generalizing cs with
  | zero =>
      simp [takeOctal]
  | succ count ih =>
      cases cs with
      | nil =>
          simp [takeOctal]
      | cons c rest =>
          by_cases hc : Text.isOctalDigit c = true
          · obtain ⟨hsplit, hlength, hdigits, hlongest⟩ := ih rest
            simp only [takeOctal, hc, if_true, List.cons_append, List.length_cons,
              List.forall_mem_cons, Nat.add_le_add_iff_right, Nat.add_right_cancel_iff]
            exact ⟨congrArg (List.cons c) hsplit, hlength, ⟨trivial, hdigits⟩, hlongest⟩
          · simp [takeOctal, hc]

/-- Octal digits are taken if there is room for them, and none is left out. -/
theorem takeOctal_append
    {count : Nat} {digits after : List Char}
    (hlength : digits.length ≤ count)
    (hdigits : ∀ d ∈ digits, Text.isOctalDigit d = true)
    (hlongest : digits.length = count ∨ ∀ d ∈ after.head?, Text.isOctalDigit d = false) :
    takeOctal count (digits ++ after) = (digits, after) := by
  induction digits generalizing count with
  | nil =>
      cases count with
      | zero =>
          simp [takeOctal]
      | succ count =>
          cases after with
          | nil =>
              simp [takeOctal]
          | cons c rest =>
              have hc : Text.isOctalDigit c = false := by simpa using hlongest
              simp [takeOctal, hc]
  | cons d digits ih =>
      cases count with
      | zero =>
          exact absurd hlength (Nat.not_succ_le_zero _)
      | succ count =>
          rw [List.forall_mem_cons] at hdigits
          rw [List.length_cons, Nat.add_le_add_iff_right] at hlength
          rw [List.length_cons, Nat.add_right_cancel_iff] at hlongest
          simp [takeOctal, hdigits.1, ih hlength hdigits.2 hlongest]

/-- What an octal digit begins is an octal escape, if its value is that of a byte. -/
theorem isOctalEscape_takeOctal
    {d : Char}
    (hd : Text.isOctalDigit d = true)
    {after : List Char}
    (hbyte : octalNumber (d :: (takeOctal 2 after).1) ≤ 255) :
    IsOctalEscape (d :: (takeOctal 2 after).1) (takeOctal 2 after).2 := by
  obtain ⟨-, hlength, hdigits, hlongest⟩ := takeOctal_spec 2 after
  exact {
    ne_nil := List.cons_ne_nil _ _
    length_le := Nat.succ_le_succ hlength
    isOctalDigit := List.forall_mem_cons.mpr ⟨hd, hdigits⟩
    longest := hlongest.imp_left fun h => by rw [List.length_cons, h]
    isByte := hbyte }

theorem octalValue_eq_ok_iff
    {digits : List Char} {byte : UInt8} :
    octalValue digits = .ok byte ↔
      octalNumber digits ≤ 255 ∧ byte = UInt8.ofNat (octalNumber digits) := by
  have hvalue : octalValue digits =
      if octalNumber digits < 256 then .ok (UInt8.ofNat (octalNumber digits))
      else .error (.octalOutOfRange (octalNumber digits)) := rfl
  rw [hvalue]
  split
  · next hlt =>
    rw [Except.ok.injEq, eq_comm, and_iff_right (Nat.le_of_lt_succ hlt)]
  · next hge =>
    simp only [reduceCtorEq, false_iff, not_and]
    intro hle
    exact absurd (Nat.lt_succ_of_le hle) hge

end Octal

section Reading

theorem letterEscape?_eq_some_iff
    {d c : Char} :
    letterEscape? d = some c ↔ (d, c) ∈ letterEscapes := by
  simp only [letterEscape?, letterEscapes, List.mem_cons, Prod.mk.injEq, List.not_mem_nil,
    or_false]
  grind

theorem letterEscape?_of_isOctalDigit
    {d : Char}
    (hd : Text.isOctalDigit d = true) :
    letterEscape? d = none := by
  rw [Option.eq_none_iff_forall_ne_some]
  intro c hc
  rw [letterEscape?_eq_some_iff] at hc
  simp only [letterEscapes, List.mem_cons, Prod.mk.injEq, List.not_mem_nil, or_false] at hc
  rcases hc with ⟨rfl, -⟩ | ⟨rfl, -⟩ | ⟨rfl, -⟩ | ⟨rfl, -⟩ | ⟨rfl, -⟩
  all_goals exact absurd hd (by decide)

theorem unescapeBytes_plain
    {c : Char}
    (hc : c ≠ '\\')
    (rest : List Char) :
    unescapeBytes (c :: rest) = (unescapeBytes rest).map (String.utf8EncodeChar c ++ ·) := by
  rw [unescapeBytes.eq_def]
  simp only [ne_eq, hc, not_false_eq_true, if_true]
  cases unescapeBytes rest <;> rfl

/-- An octal escape is read as its byte. -/
theorem unescapeBytes_octalEscape
    {digits rest : List Char}
    (h : IsOctalEscape digits rest) :
    unescapeBytes ('\\' :: (digits ++ rest)) =
      (unescapeBytes rest).map (UInt8.ofNat (octalNumber digits) :: ·) := by
  obtain ⟨d, others, rfl⟩ := List.exists_cons_of_ne_nil h.ne_nil
  obtain ⟨hd, hothers⟩ := List.forall_mem_cons.mp h.isOctalDigit
  have htake : takeOctal 2 (others ++ rest) = (others, rest) :=
    takeOctal_append (Nat.le_of_succ_le_succ h.length_le) hothers
      (h.longest.imp_left fun heq => Nat.succ.inj heq)
  have hvalue : octalValue (d :: others) = .ok (UInt8.ofNat (octalNumber (d :: others))) :=
    octalValue_eq_ok_iff.mpr ⟨h.isByte, rfl⟩
  rw [List.cons_append, unescapeBytes]
  simp only [ne_eq, not_true_eq_false, if_false, letterEscape?_of_isOctalDigit hd, hd, if_true,
    htake, hvalue]
  cases unescapeBytes rest <;> rfl

namespace EscapedBytes

variable {raw : List Char} {bytes : List UInt8}

/-- **The quote behind escaped text is the first that closes.** -/
theorem sealed
    (h : EscapedBytes raw bytes) :
    Sealed raw := by
  induction h with
  | nil =>
      exact Sealed.nil
  | plain hquote hbackslash _ ih =>
      exact ih.plain hquote hbackslash
  | letter _ _ ih =>
      exact ih.pair
  | @octal digits raw _ hescape _ ih =>
      obtain ⟨d, others, rfl⟩ := List.exists_cons_of_ne_nil hescape.ne_nil
      have hothers := (List.forall_mem_cons.mp hescape.isOctalDigit).2
      exact ((sealed_octalDigits_append_iff hothers raw).mpr ih).pair

/-- **Escaped text is read as its bytes.** -/
theorem unescapeBytes_eq
    (h : EscapedBytes raw bytes) :
    unescapeBytes raw = .ok bytes := by
  induction h with
  | nil =>
      rw [unescapeBytes]
  | plain _ hbackslash _ ih =>
      rw [unescapeBytes_plain hbackslash, ih]
      rfl
  | letter hletter _ ih =>
      rw [unescapeBytes_letter (letterEscape?_eq_some_iff.mpr hletter), ih]
      rfl
  | octal hescape _ ih =>
      rw [unescapeBytes_octalEscape hescape, ih]
      rfl

end EscapedBytes

/-- **What is read of sealed text** are the bytes of escaped text. -/
theorem unescapeBytes_eq_ok_iff
    {raw : List Char} {bytes : List UInt8}
    (hsealed : Sealed raw) :
    unescapeBytes raw = .ok bytes ↔ EscapedBytes raw bytes := by
  refine ⟨?_, EscapedBytes.unescapeBytes_eq⟩
  intro h
  fun_induction unescapeBytes raw generalizing bytes with
  | case1 =>
      cases h
      exact EscapedBytes.nil
  | case2 c rest hbackslash ih =>
      obtain ⟨others, hothers, hbytes⟩ := exists_of_bind_eq_ok h
      cases hbytes
      cases hsealed with
      | plain hquote _ hrest => exact (ih hrest hothers).plain hquote hbackslash
      | pair _ => exact absurd rfl hbackslash
  | case3 =>
      cases h
  | case4 c hc d after e hletter ih =>
      obtain ⟨others, hothers, hbytes⟩ := exists_of_bind_eq_ok h
      cases hbytes
      cases hsealed with
      | plain _ hbackslash _ => exact absurd hbackslash hc
      | pair hrest => exact (ih hrest hothers).letter (letterEscape?_eq_some_iff.mp hletter)
  | case5 c hc d after _ hd ih =>
      obtain ⟨byte, hbyte, hread⟩ := exists_of_bind_eq_ok h
      obtain ⟨others, hothers, hbytes⟩ := exists_of_bind_eq_ok hread
      cases hbytes
      obtain ⟨hle, rfl⟩ := octalValue_eq_ok_iff.mp hbyte
      obtain ⟨hsplit, -, hdigits, -⟩ := takeOctal_spec 2 after
      cases hsealed with
      | plain _ hbackslash _ => exact absurd hbackslash hc
      | pair hrest =>
          rw [hsplit, sealed_octalDigits_append_iff hdigits] at hrest
          have hescaped := (ih hrest hothers).octal (isOctalEscape_takeOctal hd hle)
          rw [List.cons_append, ← hsplit] at hescaped
          exact hescaped
  | case6 =>
      cases h

/-- **The text that is read** of sealed text has the bytes of the grammar. -/
theorem unescapeChars_eq_ok_iff
    {raw text : List Char}
    (hsealed : Sealed raw) :
    unescapeChars raw = .ok text ↔ EscapedBytes raw (Text.encode text) := by
  rw [← unescapeBytes_eq_ok_iff hsealed]
  unfold unescapeChars
  constructor
  · intro h
    obtain ⟨bytes, hbytes, hread⟩ := exists_of_bind_eq_ok h
    split at hread
    · next found hfound =>
      cases hread
      rw [hbytes, Text.decode?_eq_some_iff.mp hfound]
    · cases hread
  · intro h
    simp only [h, bind, Except.bind, Text.decode?_encode]
    rfl

end Reading

end Snippet
end EpaperLayout
