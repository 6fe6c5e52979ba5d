import EpaperLayout.Proofs.Snippet.BraceDepth
import EpaperLayout.Proofs.Text.Slices

/-!
# Matching braces and the depth

Where a block ends can be told in three ways: by the search among the places of the
code, by the depth over ranges of it, and by a loop over the bytes of the masked text
with a counter of open blocks.  They agree on every text.

**Counter.**  The loop begins at the opening brace with no block open.  A closing brace
takes one off the counter, which fails if no block is open.  It never comes to that: the
counter is one behind the opening brace, and the loop stops when it is zero again.

**Results.**
* `Lambda.IsBlock`: the end of a block, by the depth.
* `matchingBrace?_eq_some_iff`: the search finds the end of the block.
* `depthBetween?_encode`: the depth over a range of bytes.
* `closeByCounter_encode`: the loop ends where the search does, and its counter does
  not fall below zero.
-/

namespace EpaperLayout
namespace Snippet

section Blocks

variable {lambda : Lambda} {opening closing : Nat}

/-- The block that begins at one offset ends at the other: its depth is above zero as far as the
end, and zero behind it. -/
structure Lambda.IsBlock (lambda : Lambda) (opening closing : Nat) : Prop where
  opens : (Text.encode lambda.masked)[opening]? = some '{'.toUInt8
  opening_le : opening ≤ closing
  depth_eq : lambda.depthChange opening (closing + 1) = 0
  depth_pos : ∀ offset, opening < offset → offset ≤ closing →
    0 < lambda.depthChange opening offset

/-- The bytes of the masked text show the places of the code. -/
theorem getElem?_encode_masked_iff
    {c : Char}
    (hc : c.toNat < 128)
    (lambda : Lambda) (offset : Nat) :
    (Text.encode lambda.masked)[offset]? = some c.toUInt8 ↔
      ∃ place ∈ lambda.code, place.offset = offset ∧ place.char = c := by
  rw [Text.getElem?_encode_eq_some_iff hc]
  constructor
  · rintro ⟨before, after, hmasked, rfl⟩
    refine ⟨⟨Text.byteSize before, c⟩, ?_, rfl, rfl⟩
    rw [Lambda.code, hmasked, locate_append, Nat.zero_add]
    exact List.mem_append_right _ List.mem_cons_self
  · rintro ⟨place, hplace, rfl, rfl⟩
    obtain ⟨before, after, hmasked, hoffset⟩ := exists_append_of_mem_locate hplace
    exact ⟨before, after, hmasked, by rw [hoffset, Nat.zero_add]⟩

/-- Behind an opening brace the depth is one more than inside the block. -/
theorem depthChange_of_opening
    {place : Located} {stop : Nat}
    (hplace : place ∈ lambda.code)
    (hchar : place.char = '{')
    (hstop : place.offset < stop) :
    lambda.depthChange place.offset stop = 1 + lambda.depthChange (place.offset + 1) stop := by
  rw [Lambda.depthChange, codeIn_eq_cons hplace hstop, depthOf, hchar]
  rfl

/-- The depth has fallen back behind the brace that closes a block. -/
theorem depthChange_eq_zero_of_matchingBrace?
    (h : lambda.matchingBrace? opening = some closing) :
    opening < closing ∧ lambda.depthChange opening (closing + 1) = 0 := by
  obtain ⟨first, place, rest, hcode, rfl, hchar, hfound⟩ := exists_of_matchingBrace?_eq_some h
  obtain ⟨inside, brace, after, rfl, rfl, hbrace, hsum, -⟩ :=
    (closingBrace?_eq_some_iff (Nat.le_refl 1)).mp hfound
  have hplaces := pairwise_offset_code lambda
  rw [hcode, List.pairwise_append, List.pairwise_cons, List.pairwise_append,
    List.pairwise_cons] at hplaces
  obtain ⟨-, ⟨hbehind, -, ⟨hafter, -⟩, hinside⟩, -⟩ := hplaces
  have hapart : place.offset < brace.offset := hbehind brace (by simp)
  -- up to the brace that closes it the code is the block, and nothing behind it
  have hall : (inside.filter fun other => other.offset < brace.offset + 1) = inside := by
    rw [List.filter_eq_self]
    intro other hother
    have := hinside other hother brace List.mem_cons_self
    simp only [decide_eq_true_eq]
    omega
  have hnone : (after.filter fun other => other.offset < brace.offset + 1) = [] := by
    rw [List.filter_eq_nil_iff]
    intro other hother
    have := hafter other hother
    simp only [decide_eq_true_eq]
    omega
  refine ⟨hapart, ?_⟩
  rw [Lambda.depthChange, codeIn_eq_cons_filter hcode (Nat.lt_succ_of_lt hapart),
    List.filter_append, List.filter_cons_of_pos (by simp), hall, hnone, depthOf, depthOf_append,
    depthOf, hchar, hbrace, depthOf, depthStep_close]
  change 1 + (depthOf inside + (-1 + 0)) = 0
  omega

/-- What the search finds is the end of the block. -/
theorem isBlock_of_matchingBrace?
    (h : lambda.matchingBrace? opening = some closing) :
    lambda.IsBlock opening closing := by
  obtain ⟨⟨place, hplace, hopening, hchar⟩, -⟩ := exists_mem_of_matchingBrace? h
  obtain ⟨hlt, hdepth⟩ := depthChange_eq_zero_of_matchingBrace? h
  refine ⟨?_, Nat.le_of_lt hlt, hdepth, ?_⟩
  · exact (getElem?_encode_masked_iff (by decide) lambda opening).mpr
      ⟨place, hplace, hopening, hchar⟩
  · intro offset hlow hhigh
    have hinside := depthChange_nonneg_of_matchingBrace? h hlow hhigh
    subst hopening
    rw [depthChange_of_opening hplace hchar hlow]
    omega

/-- **The search for a closing brace finds the end of the block**, and nothing else. -/
theorem matchingBrace?_eq_some_iff :
    lambda.matchingBrace? opening = some closing ↔ lambda.IsBlock opening closing := by
  refine ⟨isBlock_of_matchingBrace?, ?_⟩
  intro hblock
  obtain ⟨place, hplace, rfl, hchar⟩ :=
    (getElem?_encode_masked_iff (by decide) lambda opening).mp hblock.opens
  have hle := hblock.opening_le
  obtain ⟨found, hfound, hlt⟩ :=
    exists_matchingBrace?_lt hplace hchar (by omega) hblock.depth_eq.le
  -- a block that ended earlier would have the depth zero inside this one
  have hnot : ¬found < closing := by
    intro hearlier
    have hfirst := isBlock_of_matchingBrace? hfound
    have hpos := hblock.depth_pos (found + 1) (Nat.lt_succ_of_le hfirst.opening_le) hearlier
    rw [hfirst.depth_eq] at hpos
    omega
  rw [hfound, Nat.le_antisymm (Nat.le_of_lt_succ hlt) (Nat.le_of_not_lt hnot)]

end Blocks

section Bytes

/-- The change of the nesting depth by one byte. -/
def byteStep (byte : UInt8) : Int :=
  if byte = '{'.toUInt8 then 1 else if byte = '}'.toUInt8 then -1 else 0

/-- The change of the nesting depth by bytes. -/
def byteDepth : List UInt8 → Int
  | [] => 0
  | byte :: rest => byteStep byte + byteDepth rest

/-- The change of the nesting depth over a range of bytes, its end excluded, unless the range goes
beyond them. -/
def depthBetween? (bytes : List UInt8) (start stop : Nat) : Option Int :=
  (Text.byteSlice? bytes start stop).map byteDepth

theorem byteDepth_append (first second : List UInt8) :
    byteDepth (first ++ second) = byteDepth first + byteDepth second := by
  induction first with
  | nil =>
      simp [byteDepth]
  | cons byte rest ih =>
      rw [List.cons_append, byteDepth, byteDepth, ih, add_assoc]

/-- A byte that is no brace. -/
def IsNoBrace (byte : UInt8) : Prop :=
  byte ≠ '{'.toUInt8 ∧ byte ≠ '}'.toUInt8

theorem byteDepth_eq_zero
    {bytes : List UInt8}
    (h : ∀ byte ∈ bytes, IsNoBrace byte) :
    byteDepth bytes = 0 := by
  induction bytes with
  | nil =>
      rfl
  | cons byte rest ih =>
      obtain ⟨hopen, hclose⟩ := h byte List.mem_cons_self
      rw [byteDepth, byteStep, if_neg hopen, if_neg hclose,
        ih fun other hother => h other (List.mem_cons_of_mem _ hother)]
      rfl

/-- A character is a brace of one byte, or none of its bytes is a brace. -/
theorem encodeChar_brace_cases (c : Char) :
    (c = '{' ∧ String.utf8EncodeChar c = ['{'.toUInt8]) ∨
      (c = '}' ∧ String.utf8EncodeChar c = ['}'.toUInt8]) ∨
      (c ≠ '{' ∧ c ≠ '}' ∧ ∀ byte ∈ String.utf8EncodeChar c, IsNoBrace byte) := by
  by_cases hopen : c = '{'
  · subst hopen
    exact Or.inl ⟨rfl, Text.encodeChar_of_lt (by decide)⟩
  · by_cases hclose : c = '}'
    · subst hclose
      exact Or.inr (Or.inl ⟨rfl, Text.encodeChar_of_lt (by decide)⟩)
    · refine Or.inr (Or.inr ⟨hopen, hclose, ?_⟩)
      rintro byte hbyte
      constructor
      · rintro rfl
        exact hopen (Text.eq_of_mem_encodeChar (by decide) hbyte)
      · rintro rfl
        exact hclose (Text.eq_of_mem_encodeChar (by decide) hbyte)

/-- A character changes the depth with its first byte. -/
theorem byteDepth_take_encodeChar (c : Char) (count : Nat) :
    byteDepth ((String.utf8EncodeChar c).take count) = if 0 < count then depthStep c else 0 := by
  cases count with
  | zero =>
      simp [byteDepth]
  | succ count =>
      rw [if_pos (Nat.succ_pos count)]
      rcases encodeChar_brace_cases c with ⟨rfl, hbytes⟩ | ⟨rfl, hbytes⟩ | ⟨hopen, hclose, hbytes⟩
      · rw [hbytes, List.take_succ_cons, List.take_nil]
        rfl
      · rw [hbytes, List.take_succ_cons, List.take_nil]
        rfl
      · rw [byteDepth_eq_zero fun byte hbyte => hbytes byte (List.mem_of_mem_take hbyte),
          depthStep, if_neg hopen, if_neg hclose]

/-- The bytes up to an offset change the depth as the places before it do. -/
theorem byteDepth_take_encode (start stop : Nat) (cs : List Char) :
    byteDepth ((Text.encode cs).take (stop - start)) =
      depthOf ((locate start cs).filter fun place => place.offset < stop) := by
  induction cs generalizing start with
  | nil =>
      simp [Text.encode, byteDepth, locate, depthOf]
  | cons c rest ih =>
      rw [Text.encode_cons, List.take_append, byteDepth_append, byteDepth_take_encodeChar,
        String.length_utf8EncodeChar, Nat.sub_sub, ih, locate]
      by_cases hstart : start < stop
      · rw [if_pos (by omega), List.filter_cons_of_pos (by simpa using hstart), depthOf]
      · rw [if_neg (by omega), List.filter_cons_of_neg (by simpa using hstart), Int.zero_add]

/-- **The depth over a range of bytes** of the masked text is that over the range of the code. -/
theorem depthBetween?_encode (lambda : Lambda) (start stop : Nat) :
    depthBetween? (Text.encode lambda.masked) start stop =
      if start ≤ stop ∧ stop ≤ (Text.encode lambda.masked).length then
        some (lambda.depthChange start stop)
      else none := by
  have hfirst (offset : Nat) :
      byteDepth ((Text.encode lambda.masked).take offset) = lambda.depthChange 0 offset := by
    have hplaces := byteDepth_take_encode 0 offset lambda.masked
    rw [Nat.sub_zero] at hplaces
    rw [hplaces, Lambda.depthChange, Lambda.codeIn]
    simp [Lambda.code]
  rw [depthBetween?, Text.byteSlice?]
  split
  · next hrange =>
    have hadd := depthChange_add lambda (Nat.zero_le start) hrange.1
    have hcut := List.take_append_drop start ((Text.encode lambda.masked).take stop)
    rw [List.take_take, Nat.min_eq_left hrange.1] at hcut
    have hdepth := congrArg byteDepth hcut
    rw [byteDepth_append, hfirst, hfirst] at hdepth
    rw [Option.map_some]
    congr 1
    omega
  · rfl

end Bytes

section Counter

/-- What a counter of open blocks cannot do. -/
inductive CounterFault where
  | belowZero
deriving DecidableEq, Repr

/-- The loop over bytes from an offset on, until the last open block is closed. -/
def countBlocks (counter offset : Nat) : List UInt8 → Except CounterFault (Option Nat)
  | [] => .ok none
  | byte :: rest =>
    if byte = '{'.toUInt8 then countBlocks (counter + 1) (offset + 1) rest
    else if byte = '}'.toUInt8 then
      if counter = 0 then .error .belowZero
      else if counter - 1 = 0 then .ok (some offset)
      else countBlocks (counter - 1) (offset + 1) rest
    else countBlocks counter (offset + 1) rest

/-- The offset of the brace that closes the one at `opening`, by the loop with a counter. -/
def closeByCounter (bytes : List UInt8) (opening : Nat) : Except CounterFault (Option Nat) :=
  if bytes[opening]? = some '{'.toUInt8 then countBlocks 0 opening (bytes.drop opening)
  else .ok none

/-- Bytes that are no braces are passed. -/
theorem countBlocks_append
    {skipped : List UInt8}
    (h : ∀ byte ∈ skipped, IsNoBrace byte)
    (counter offset : Nat) (rest : List UInt8) :
    countBlocks counter offset (skipped ++ rest) =
      countBlocks counter (offset + skipped.length) rest := by
  induction skipped generalizing offset with
  | nil =>
      rfl
  | cons byte skipped ih =>
      obtain ⟨hopen, hclose⟩ := h byte List.mem_cons_self
      rw [List.cons_append, countBlocks, if_neg hopen, if_neg hclose,
        ih fun other hother => h other (List.mem_cons_of_mem _ hother), List.length_cons,
        Nat.add_assoc, Nat.add_comm 1]

/-- With an open block the loop over the bytes of a text finds what the search finds. -/
theorem countBlocks_encode
    {counter : Nat}
    (hcounter : 1 ≤ counter)
    (offset : Nat) (cs : List Char) :
    countBlocks counter offset (Text.encode cs) =
      .ok (closingBrace? counter (locate offset cs)) := by
  induction cs generalizing counter offset with
  | nil =>
      rfl
  | cons c rest ih =>
      rw [Text.encode_cons, locate, closingBrace?]
      rcases encodeChar_brace_cases c with ⟨rfl, hbytes⟩ | ⟨rfl, hbytes⟩ | ⟨hopen, hclose, hbytes⟩
      · rw [hbytes]
        exact ih (Nat.le_add_left 1 counter) _
      · have hclosing : countBlocks counter offset (['}'.toUInt8] ++ Text.encode rest) =
            if counter = 0 then .error .belowZero
            else if counter - 1 = 0 then .ok (some offset)
            else countBlocks (counter - 1) (offset + 1) (Text.encode rest) :=
          rfl
        have hnotOpen : ¬('}' : Char) = '{' := by decide
        rw [hbytes, hclosing, if_neg (by omega), if_neg hnotOpen, if_pos rfl]
        by_cases hlast : counter ≤ 1
        · rw [if_pos (by omega), if_pos hlast]
        · rw [if_neg (by omega), if_neg hlast, ih (by omega)]
          rfl
      · rw [countBlocks_append hbytes, String.length_utf8EncodeChar, ih hcounter]
        simp only [hopen, hclose, if_false]

/-- **The loop with a counter** ends where the search does, without a fault. -/
theorem closeByCounter_encode (lambda : Lambda) (opening : Nat) :
    closeByCounter (Text.encode lambda.masked) opening =
      .ok (lambda.matchingBrace? opening) := by
  rw [closeByCounter]
  split
  · next hopens =>
    obtain ⟨before, after, hmasked, rfl⟩ :=
      (Text.getElem?_encode_eq_some_iff (by decide)).mp hopens
    have hbrace : String.utf8EncodeChar '{' = ['{'.toUInt8] := Text.encodeChar_of_lt (by decide)
    have hcode : lambda.code = locate 0 before ++ ⟨Text.byteSize before, '{'⟩ ::
        locate (Text.byteSize before + 1) after := by
      rw [Lambda.code, hmasked, locate_append, Nat.zero_add]
      rfl
    rw [matchingBrace?_eq_closingBrace? hcode rfl, hmasked, Text.encode_append,
      ← Text.length_encode before, List.drop_left, Text.encode_cons, hbrace]
    exact countBlocks_encode (Nat.le_refl 1) _ after
  · next hnone =>
    congr 1
    rw [eq_comm, Option.eq_none_iff_forall_ne_some]
    intro closing hfound
    exact hnone (isBlock_of_matchingBrace? hfound).opens

end Counter

/-- **The search for a closing brace agrees with the depth.**  It finds the end of the block, whose
byte is a closing brace, and it finds none exactly if there is no such end.  A loop with a counter
of open blocks, over the bytes, ends with the same and never takes its counter below zero.  The
depth over a range is that of its bytes. -/
theorem Lambda.matchingBrace_agrees_depthChange (lambda : Lambda) (opening : Nat) :
    (∀ closing, lambda.matchingBrace? opening = some closing ↔ lambda.IsBlock opening closing) ∧
      (lambda.matchingBrace? opening = none ↔ ¬∃ closing, lambda.IsBlock opening closing) ∧
      (∀ closing ∈ lambda.matchingBrace? opening,
        (Text.encode lambda.masked)[closing]? = some '}'.toUInt8) ∧
      closeByCounter (Text.encode lambda.masked) opening = .ok (lambda.matchingBrace? opening) ∧
      ∀ start stop, depthBetween? (Text.encode lambda.masked) start stop =
        if start ≤ stop ∧ stop ≤ (Text.encode lambda.masked).length then
          some (lambda.depthChange start stop)
        else none := by
  refine ⟨fun _ => matchingBrace?_eq_some_iff, ?_, ?_, closeByCounter_encode lambda opening,
    depthBetween?_encode lambda⟩
  · rw [Option.eq_none_iff_forall_ne_some, not_exists]
    exact forall_congr' fun closing => not_congr matchingBrace?_eq_some_iff
  · intro closing hfound
    exact (getElem?_encode_masked_iff (by decide) lambda closing).mpr
      (exists_mem_of_matchingBrace? hfound).2

/-- A block inside one that stays open, with braces in a comment and in a literal. -/
def unclosedBlock : Lambda :=
  .ofText "\x7b \x7b // \x7d\n '\x7d' \x7d"

/-- The inner block ends at the last brace, and the outer one does not end. -/
theorem matchingBrace_agrees_unclosedBlock :
    unclosedBlock.matchingBrace? 2 = some 14 ∧ unclosedBlock.IsBlock 2 14 ∧
      (Text.encode unclosedBlock.masked)[14]? = some '}'.toUInt8 ∧
      (¬∃ closing, unclosedBlock.IsBlock 0 closing) ∧
      closeByCounter (Text.encode unclosedBlock.masked) 0 = .ok none := by
  obtain ⟨hblock, -, hbyte, -⟩ := unclosedBlock.matchingBrace_agrees_depthChange 2
  obtain ⟨-, hopen, -, hcounter, -⟩ := unclosedBlock.matchingBrace_agrees_depthChange 0
  have hinner : unclosedBlock.matchingBrace? 2 = some 14 := by decide +kernel
  have houter : unclosedBlock.matchingBrace? 0 = none := by decide +kernel
  refine ⟨hinner, (hblock 14).mp hinner, hbyte 14 hinner, hopen.mp houter, ?_⟩
  rw [hcounter, houter]

end Snippet
end EpaperLayout
