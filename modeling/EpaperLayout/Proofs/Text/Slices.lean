import EpaperLayout.Text.Utf8
import Mathlib.Data.List.DropRight

/-!
# Slices of a text by offsets

A program that reads a text by offsets of its bytes may look at any byte, but it may cut
the text only between two characters.  Here the bytes of a text are cut at offsets, and
a cut out of range or inside a character fails.

**Shape of characters.**  A character below 128 is one byte with its number.  Any other
is a byte of at least 192 with further bytes of at least 128, so a byte below 128 is a
character of its own wherever it is met.

**Results.**
* `encodeChar_cases`: the shape of the bytes of a character.
* `getElem?_encode`: the byte after a part of a text is the first of the next character.
* `getElem?_encode_eq_some_iff`: where a character below 128 stands.
* `byteSlice?_encode`, `textSlice?_encode`: parts of a text can be cut out.
-/

namespace EpaperLayout
namespace Text

section Bytes

theorem encode_append (first second : List Char) :
    encode (first ++ second) = encode first ++ encode second :=
  List.flatMap_append

theorem encode_cons (c : Char) (rest : List Char) :
    encode (c :: rest) = String.utf8EncodeChar c ++ encode rest :=
  rfl

theorem length_encode (cs : List Char) : (encode cs).length = byteSize cs := by
  induction cs with
  | nil =>
      rfl
  | cons c rest ih =>
      rw [encode_cons, List.length_append, String.length_utf8EncodeChar, ih, byteSize_cons]

theorem encode_injective : Function.Injective encode := by
  intro first second h
  have hdecoded := decode?_encode first
  rw [h, decode?_encode] at hdecoded
  exact (Option.some.inj hdecoded).symm

/-- **A character** below 128 is its own byte; any other begins with a byte of at least 192, and all
further ones are at least 128. -/
theorem encodeChar_cases (c : Char) :
    (c.toNat < 128 ∧ String.utf8EncodeChar c = [c.toUInt8]) ∨
      (128 ≤ c.toNat ∧ ∃ lead others, String.utf8EncodeChar c = lead :: others ∧
        192 ≤ lead.toNat ∧ ∀ byte ∈ others, 128 ≤ byte.toNat) := by
  have hlead (n : Nat) (hlow : 192 ≤ n) (hhigh : n < 256) : 192 ≤ (UInt8.ofNat n).toNat := by
    rw [UInt8.toNat_ofNat', Nat.mod_eq_of_lt (by simpa using hhigh)]
    exact hlow
  have hother (n : Nat) : 128 ≤ (UInt8.ofNat (n % 64 + 128)).toNat := by
    rw [UInt8.toNat_ofNat']
    omega
  rw [String.utf8EncodeChar]
  split
  · next hsmall =>
    exact Or.inl ⟨Nat.lt_succ_of_le hsmall, rfl⟩
  · next hlarge =>
    refine Or.inr ⟨Nat.lt_of_not_le hlarge, ?_⟩
    split
    · refine ⟨_, _, rfl, hlead _ (by omega) (by omega), ?_⟩
      simpa using hother _
    · split
      · refine ⟨_, _, rfl, hlead _ (by omega) (by omega), ?_⟩
        simpa using ⟨hother _, hother _⟩
      · refine ⟨_, _, rfl, hlead _ (by omega) (by omega), ?_⟩
        simpa using ⟨hother _, hother _, hother _⟩

/-- The first byte of a character. -/
def leadByte (c : Char) : UInt8 :=
  (String.utf8EncodeChar c).headD 0

theorem encodeChar_of_lt
    {c : Char}
    (h : c.toNat < 128) :
    String.utf8EncodeChar c = [c.toUInt8] := by
  rcases encodeChar_cases c with ⟨-, hbytes⟩ | ⟨hlarge, -⟩
  · exact hbytes
  · omega

theorem leadByte_of_lt
    {c : Char}
    (h : c.toNat < 128) :
    leadByte c = c.toUInt8 := by
  rw [leadByte, encodeChar_of_lt h]
  rfl

theorem le_leadByte_of_le
    {c : Char}
    (h : 128 ≤ c.toNat) :
    192 ≤ (leadByte c).toNat := by
  rcases encodeChar_cases c with ⟨hsmall, -⟩ | ⟨-, lead, others, hbytes, hlead, -⟩
  · omega
  · rw [leadByte, hbytes]
    exact hlead

/-- The bytes behind the first one are none of a character below 128. -/
theorem exists_encodeChar_eq_cons (c : Char) :
    ∃ others, String.utf8EncodeChar c = leadByte c :: others ∧
      ∀ byte ∈ others, 128 ≤ byte.toNat := by
  rcases encodeChar_cases c with ⟨-, hbytes⟩ | ⟨-, lead, others, hbytes, -, hothers⟩
  · exact ⟨[], by rw [leadByte, hbytes]; rfl, nofun⟩
  · exact ⟨others, by rw [leadByte, hbytes]; rfl, hothers⟩

theorem toNat_toUInt8_of_lt
    {c : Char}
    (h : c.toNat < 128) :
    c.toUInt8.toNat = c.toNat := by
  rw [Char.toUInt8, UInt32.toNat_toUInt8]
  exact Nat.mod_eq_of_lt (Nat.lt_trans h (by omega))

/-- The first byte tells a character below 128 from all others. -/
theorem leadByte_eq_iff
    {c d : Char}
    (hd : d.toNat < 128) :
    leadByte c = d.toUInt8 ↔ c = d := by
  constructor
  · intro h
    have hnumber := congrArg UInt8.toNat h
    rw [toNat_toUInt8_of_lt hd] at hnumber
    by_cases hc : c.toNat < 128
    · rw [leadByte_of_lt hc, toNat_toUInt8_of_lt hc] at hnumber
      exact Char.toNat_inj.mp hnumber
    · have hlead := le_leadByte_of_le (Nat.le_of_not_lt hc)
      omega
  · rintro rfl
    exact leadByte_of_lt hd

/-- The byte of a character below 128 is met in no other character. -/
theorem eq_of_mem_encodeChar
    {c d : Char}
    (hd : d.toNat < 128)
    (h : d.toUInt8 ∈ String.utf8EncodeChar c) :
    c = d := by
  obtain ⟨others, hbytes, hothers⟩ := exists_encodeChar_eq_cons c
  rw [hbytes, List.mem_cons] at h
  rcases h with hlead | hother
  · exact (leadByte_eq_iff hd).mp hlead.symm
  · have hlarge := hothers _ hother
    rw [toNat_toUInt8_of_lt hd] at hlarge
    omega

/-- The property holds of characters below 128 only. -/
def IsAscii (p : Char → Bool) : Prop :=
  ∀ c, p c = true → c.toNat < 128

theorem toNat_ofUInt8 (byte : UInt8) : (Char.ofUInt8 byte).toNat = byte.toNat :=
  UInt8.toNat_toUInt32 byte

theorem IsAscii.of_le
    {p : Char → Bool} {byte : UInt8}
    (h : IsAscii p)
    (hbyte : 128 ≤ byte.toNat) :
    p (Char.ofUInt8 byte) = false := by
  rw [Bool.eq_false_iff]
  intro hp
  have hsmall := h _ hp
  rw [toNat_ofUInt8] at hsmall
  omega

/-- Such a property is seen from the first byte. -/
theorem IsAscii.leadByte
    {p : Char → Bool}
    (h : IsAscii p)
    (c : Char) :
    p (Char.ofUInt8 (leadByte c)) = p c := by
  by_cases hc : c.toNat < 128
  · have hsame : Char.ofUInt8 (Text.leadByte c) = c := by
      apply Char.toNat_inj.mp
      rw [toNat_ofUInt8, leadByte_of_lt hc, toNat_toUInt8_of_lt hc]
    rw [hsame]
  · have hlead := le_leadByte_of_le (Nat.le_of_not_lt hc)
    rw [h.of_le (by omega), eq_comm, Bool.eq_false_iff]
    exact fun hp => hc (h c hp)

theorem IsAscii.of_mem_encodeChar
    {p : Char → Bool} {c : Char}
    (h : IsAscii p)
    (hc : p c = false) :
    ∀ byte ∈ String.utf8EncodeChar c, p (Char.ofUInt8 byte) = false := by
  obtain ⟨others, hbytes, hothers⟩ := exists_encodeChar_eq_cons c
  intro byte hbyte
  rw [hbytes, List.mem_cons] at hbyte
  rcases hbyte with rfl | hother
  · rw [h.leadByte, hc]
  · exact h.of_le (hothers byte hother)

/-- A byte below 128 is met only where its character stands. -/
theorem takeWhile_encode
    {d : Char}
    (hd : d.toNat < 128)
    (cs : List Char) :
    (encode cs).takeWhile (· ≠ d.toUInt8) = encode (cs.takeWhile (· ≠ d)) := by
  induction cs with
  | nil =>
      rfl
  | cons c rest ih =>
      by_cases hc : c = d
      · obtain ⟨others, hbytes, -⟩ := exists_encodeChar_eq_cons c
        rw [encode_cons, hbytes, List.cons_append,
          List.takeWhile_cons_of_neg (by simpa using (leadByte_eq_iff hd).mpr hc),
          List.takeWhile_cons_of_neg (by simpa using hc)]
        rfl
      · have hnone : ∀ byte ∈ String.utf8EncodeChar c, decide (byte ≠ d.toUInt8) = true := by
          intro byte hbyte
          rw [decide_eq_true_eq]
          rintro rfl
          exact hc (eq_of_mem_encodeChar hd hbyte)
        rw [encode_cons, List.takeWhile_append_of_pos hnone, ih,
          List.takeWhile_cons_of_pos (by simpa using hc), encode_cons]

/-- A property of characters below 128 is met backwards in the bytes as in the text. -/
theorem IsAscii.rdropWhile_encode
    {p : Char → Bool}
    (h : IsAscii p)
    (cs : List Char) :
    (encode cs).rdropWhile (fun byte => p (Char.ofUInt8 byte)) = encode (cs.rdropWhile p) := by
  induction cs using List.reverseRecOn with
  | nil =>
      rfl
  | append_singleton before c ih =>
      have hlast : encode (before ++ [c]) = encode before ++ String.utf8EncodeChar c := by
        rw [encode_append]
        exact congrArg _ (List.append_nil _)
      by_cases hp : p c = true
      · have hbytes := encodeChar_of_lt (h c hp)
        rw [List.rdropWhile_concat_pos _ _ _ hp, hlast, hbytes, ← leadByte_of_lt (h c hp),
          List.rdropWhile_concat_pos _ _ _ (by rw [h.leadByte, hp]), ih]
      · rw [Bool.not_eq_true] at hp
        obtain ⟨init, last, hbytes⟩ :
            ∃ init last, String.utf8EncodeChar c = init ++ [last] :=
          (List.eq_nil_or_concat' _).resolve_left String.utf8EncodeChar_ne_nil
        have hnone : p (Char.ofUInt8 last) = false :=
          h.of_mem_encodeChar hp last (by rw [hbytes]; exact List.mem_concat_self)
        rw [List.rdropWhile_concat_neg _ _ _ (by simp [hp]), hlast, hbytes, ← List.append_assoc,
          List.rdropWhile_concat_neg _ _ _ (by simp [hnone])]

end Bytes

section Slices

/-- A byte that goes on with a character begun before it. -/
def isContinuation (byte : UInt8) : Bool :=
  128 ≤ byte && byte < 192

/-- Whether a text may be cut at the offset. -/
def isBoundary (bytes : List UInt8) (offset : Nat) : Bool :=
  offset = 0 || offset = bytes.length || bytes[offset]?.any fun byte => !isContinuation byte

/-- The bytes between two offsets, unless they are out of range. -/
def byteSlice? (bytes : List UInt8) (start stop : Nat) : Option (List UInt8) :=
  if start ≤ stop ∧ stop ≤ bytes.length then some ((bytes.take stop).drop start) else none

/-- The text between two offsets, unless they are out of range or inside a character. -/
def textSlice? (bytes : List UInt8) (start stop : Nat) : Option (List Char) :=
  if isBoundary bytes start && isBoundary bytes stop then
    (byteSlice? bytes start stop).bind decode?
  else none

variable {bytes : List UInt8} {offset start stop : Nat}

/-- **The byte after a part of a text** is the first of the next character. -/
theorem getElem?_encode
    (before after : List Char)
    (hbytes : bytes = encode (before ++ after))
    (hoffset : offset = byteSize before) :
    bytes[offset]? = after.head?.map leadByte := by
  rw [hbytes, hoffset, encode_append, ← length_encode, List.getElem?_append_right (Nat.le_refl _),
    Nat.sub_self]
  cases after with
  | nil => rfl
  | cons c rest =>
      obtain ⟨others, hbytes, -⟩ := exists_encodeChar_eq_cons c
      rw [encode_cons, hbytes]
      rfl

/-- **A byte below 128** stands where its character does. -/
theorem getElem?_encode_eq_some_iff
    {c : Char} {cs : List Char}
    (hc : c.toNat < 128) :
    (encode cs)[offset]? = some c.toUInt8 ↔
      ∃ before after, cs = before ++ c :: after ∧ offset = byteSize before := by
  constructor
  · induction cs generalizing offset with
    | nil =>
        intro h
        cases h
    | cons d rest ih =>
        intro h
        rw [encode_cons, List.getElem?_append, String.length_utf8EncodeChar] at h
        split at h
        · -- no byte of another character is below 128
          obtain rfl : d = c := eq_of_mem_encodeChar hc (List.mem_of_getElem? h)
          have hbytes := encodeChar_of_lt hc
          have hsize := String.length_utf8EncodeChar d
          rw [hbytes, List.length_singleton] at hsize
          exact ⟨[], rest, rfl, by rw [byteSize_nil]; omega⟩
        · obtain ⟨before, after, rfl, hoffset⟩ := ih h
          refine ⟨d :: before, after, rfl, ?_⟩
          rw [byteSize_cons]
          omega
  · rintro ⟨before, after, rfl, rfl⟩
    rw [getElem?_encode before (c :: after) rfl rfl, List.head?_cons, Option.map_some,
      leadByte_of_lt hc]

/-- A text may be cut after each part. -/
theorem isBoundary_encode (before after : List Char) :
    isBoundary (encode (before ++ after)) (byteSize before) = true := by
  rw [isBoundary, getElem?_encode before after rfl rfl, length_encode, byteSize_append]
  cases after with
  | nil => simp
  | cons c rest =>
      have hlead : isContinuation (leadByte c) = false := by
        rw [isContinuation, Bool.and_eq_false_iff, decide_eq_false_iff_not, decide_eq_false_iff_not,
          UInt8.le_iff_toNat_le, UInt8.lt_iff_toNat_lt]
        by_cases hc : c.toNat < 128
        · rw [leadByte_of_lt hc, toNat_toUInt8_of_lt hc]
          exact Or.inl (Nat.not_le_of_lt hc)
        · exact Or.inr (Nat.not_lt_of_le (le_leadByte_of_le (Nat.le_of_not_lt hc)))
      simp [hlead]

/-- A part of a list of bytes can be cut out. -/
theorem byteSlice?_append (before middle after : List UInt8) :
    byteSlice? (before ++ (middle ++ after)) before.length (before.length + middle.length) =
      some middle := by
  have hrange : before.length ≤ before.length + middle.length ∧
      before.length + middle.length ≤ (before ++ (middle ++ after)).length := by
    rw [List.length_append, List.length_append]
    omega
  rw [byteSlice?, if_pos hrange, List.take_length_add_append, List.take_left, List.drop_left]

/-- **A part of a text can be cut out** as bytes. -/
theorem byteSlice?_encode
    (before middle after : List Char)
    (hbytes : bytes = encode (before ++ (middle ++ after)))
    (hstart : start = byteSize before)
    (hstop : stop = byteSize before + byteSize middle) :
    byteSlice? bytes start stop = some (encode middle) := by
  rw [hbytes, hstart, hstop, encode_append, encode_append, ← length_encode before,
    ← length_encode middle]
  exact byteSlice?_append _ _ _

/-- **A part of a text can be cut out** as a text. -/
theorem textSlice?_encode
    (before middle after : List Char)
    (hbytes : bytes = encode (before ++ (middle ++ after)))
    (hstart : start = byteSize before)
    (hstop : stop = byteSize before + byteSize middle) :
    textSlice? bytes start stop = some middle := by
  have hlow : isBoundary bytes start = true := by
    rw [hbytes, hstart]
    exact isBoundary_encode _ _
  have hhigh : isBoundary bytes stop = true := by
    rw [hbytes, hstop, ← byteSize_append, ← List.append_assoc]
    exact isBoundary_encode _ _
  rw [textSlice?, hlow, hhigh, byteSlice?_encode before middle after hbytes hstart hstop]
  exact decode?_encode middle

/-- The bytes up to the end of a part. -/
theorem byteSlice?_encode_start (before after : List Char) :
    byteSlice? (encode (before ++ after)) 0 (byteSize before) = some (encode before) :=
  byteSlice?_encode [] before after rfl rfl (Nat.zero_add _).symm

/-- The bytes behind a part. -/
theorem byteSlice?_encode_rest (before after : List Char) :
    byteSlice? (encode (before ++ after)) (byteSize before) (encode (before ++ after)).length =
      some (encode after) :=
  byteSlice?_encode before after [] (by rw [List.append_nil]) rfl
    (by rw [length_encode, byteSize_append])

/-- The text behind a part. -/
theorem textSlice?_encode_rest
    (before after : List Char)
    (hbytes : bytes = encode (before ++ after))
    (hstart : start = byteSize before) :
    textSlice? bytes start bytes.length = some after := by
  refine textSlice?_encode before after [] ?_ hstart ?_
  · rw [hbytes, List.append_nil]
  · rw [hbytes, length_encode, byteSize_append]

end Slices

end Text
end EpaperLayout
