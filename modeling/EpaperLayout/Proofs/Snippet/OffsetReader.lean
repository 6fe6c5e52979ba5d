import EpaperLayout.Proofs.Snippet.LexicalElements

/-!
# A reader of routines by offsets

The pieces of a routine are cut from a list of characters.  The same text can be read in
place: by offsets of its bytes, in a copy that is masked on the way, with slices that fail
when they are out of range or inside a character.  This module defines that reader and
shows that it finds the same ends of comments and literals.

**Rounds.**  A round passes one byte of code, or hides a whole comment or literal.  So the
reader also stops inside characters of code, where it may look at bytes but never cuts.

**Literals.**  The loop over a literal goes on by two bytes behind a backslash, into the
middle of a character or past the end of the text.  It comes out behind that character all
the same, since the bytes within a character are neither quotes nor backslashes nor line
feeds, and where it has passed the end the literal is cut off there.

**Results.**
* `lineEnd?_encode`, `blockEnd?_encode`, `rawEnd?_encode`, `quotedEnd_encode`: the ends
  are those of the pieces, and no slice on the way fails.
* `opensRaw?_encode`, `separatesDigits?_encode`: so is the word before a quote.
-/

namespace EpaperLayout
namespace Snippet

section Reader

/-- Where the pattern first occurs in a text, in bytes. -/
def findText? (pattern : List Char) : List Char → Option Nat
  | [] => if pattern.isPrefixOf [] then some 0 else none
  | c :: rest =>
    if pattern.isPrefixOf (c :: rest) then some 0
    else (findText? pattern rest).map (c.utf8Size + ·)

/-- The end of the line that the offset lies on. -/
def lineEnd? (bytes : List UInt8) (offset : Nat) : Option Nat := do
  let line ← Text.byteSlice? bytes offset bytes.length
  return offset + (line.takeWhile (· ≠ '\n'.toUInt8)).length

/-- Where the word begins that ends at the offset. -/
def wordStart? (bytes : List UInt8) (offset : Nat) : Option Nat := do
  let before ← Text.byteSlice? bytes 0 offset
  return (before.rdropWhile fun byte => Text.isIdentifierChar (Char.ofUInt8 byte)).length

/-- Whether the word before the quote at the offset makes it open a raw literal. -/
def opensRaw? (bytes : List UInt8) (offset : Nat) : Option Bool := do
  let word ← Text.byteSlice? bytes (← wordStart? bytes offset) offset
  return (rawPrefixes.map Text.encode).contains word

/-- Whether the quote at the offset separates digits. -/
def separatesDigits? (bytes : List UInt8) (offset : Nat) : Option Bool := do
  let start ← wordStart? bytes offset
  if start < offset then
    let first ← bytes[start]?
    return Text.isDigit (Char.ofUInt8 first) &&
      bytes[offset + 1]?.any fun byte => Text.isHexDigit (Char.ofUInt8 byte)
  else return false

/-- Where the raw literal ends whose quote is at the offset. -/
def rawEnd? (bytes : List UInt8) (offset : Nat) : Option Nat := do
  let rest ← Text.textSlice? bytes (offset + 1) bytes.length
  match findText? ['('] rest with
  | none => lineEnd? bytes offset
  | some length =>
    let delimiter ← Text.textSlice? bytes (offset + 1) (offset + 1 + length)
    if 16 < length || delimiter.any endsDelimiter then lineEnd? bytes offset
    else
      let body := offset + 1 + length + 1
      let terminator := ')' :: delimiter ++ ['"']
      let following ← Text.textSlice? bytes body bytes.length
      return match findText? terminator following with
        | none => bytes.length
        | some place => body + place + Text.byteSize terminator

/-- Where the block comment ends whose slash is at the offset. -/
def blockEnd? (bytes : List UInt8) (offset : Nat) : Option Nat := do
  let rest ← Text.textSlice? bytes (offset + 2) bytes.length
  return match findText? ['*', '/'] rest with
    | none => bytes.length
    | some place => offset + 2 + place + 2

/-- Where the loop over a literal stops: at its quote, at the end of the line, or up to one byte
behind the text. -/
def quotedStop (bytes : List UInt8) (quote : UInt8) (offset : Nat) : Nat :=
  match h : bytes[offset]? with
  | none => offset
  | some byte =>
    if byte = quote ∨ byte = '\n'.toUInt8 then offset
    else quotedStop bytes quote (offset + if byte = '\\'.toUInt8 then 2 else 1)
termination_by bytes.length - offset
decreasing_by
  have := (List.getElem?_eq_some_iff.mp h).1
  split <;> omega

/-- Where a literal ends if the loop over it has stopped. -/
def closeAt (bytes : List UInt8) (quote : UInt8) (stop : Nat) : Nat :=
  if bytes[stop]? = some quote then stop + 1 else min stop bytes.length

/-- Where the literal ends whose quote is at the offset. -/
def quotedEnd (bytes : List UInt8) (quote : UInt8) (offset : Nat) : Nat :=
  closeAt bytes quote (quotedStop bytes quote (offset + 1))

/-- What the reader has come to: the masked copy, the line comments and the offset. -/
structure Scan where
  masked : List UInt8
  comments : List LineComment := []
  offset : Nat := 0
deriving DecidableEq, Repr

namespace Scan

/-- Blanks out the bytes up to an offset and goes on from there. -/
def blankTo? (scan : Scan) (stop : Nat) : Option Scan := do
  let hidden ← Text.byteSlice? scan.masked scan.offset stop
  return { scan with
    masked := scan.masked.take scan.offset ++ hidden.map blankByte ++ scan.masked.drop stop
    offset := stop }

/-- Takes a line comment down. -/
def note (scan : Scan) (comment : LineComment) : Scan :=
  { scan with comments := scan.comments ++ [comment] }

/-- Reads on past one byte of code. -/
def pastByte (scan : Scan) : Scan :=
  { scan with offset := scan.offset + 1 }

/-- One round of the reader, from a byte on. -/
def round? (bytes : List UInt8) (scan : Scan) (byte : UInt8) : Option Scan := do
  let next := bytes[scan.offset + 1]?
  if byte = '/'.toUInt8 ∧ next = some '/'.toUInt8 then
    let stop ← lineEnd? bytes scan.offset
    let body ← Text.textSlice? bytes (scan.offset + 2) stop
    (scan.note { offset := scan.offset, body }).blankTo? stop
  else if byte = '/'.toUInt8 ∧ next = some '*'.toUInt8 then
    scan.blankTo? (← blockEnd? bytes scan.offset)
  else if byte = '"'.toUInt8 then
    if ← opensRaw? bytes scan.offset then scan.blankTo? (← rawEnd? bytes scan.offset)
    else scan.blankTo? (quotedEnd bytes byte scan.offset)
  else if byte = '\''.toUInt8 then
    if ← separatesDigits? bytes scan.offset then return scan.pastByte
    else scan.blankTo? (quotedEnd bytes byte scan.offset)
  else return scan.pastByte

/-- At most `rounds` rounds of the reader, which must be enough to come to the end. -/
def finish? (bytes : List UInt8) : (rounds : Nat) → Scan → Option Scan
  | 0, scan => if scan.offset < bytes.length then none else some scan
  | rounds + 1, scan =>
    match bytes[scan.offset]? with
    | none => some scan
    | some byte => (scan.round? bytes byte).bind (finish? bytes rounds)

/-- Reads a text in place, in no more rounds than it has bytes. -/
def ofText? (text : List Char) : Option Scan :=
  let bytes := Text.encode text
  finish? bytes bytes.length { masked := bytes }

end Scan

end Reader

section Patterns

/-- The two ways to look for a pattern find the same. -/
theorem byteSize_splitAfter
    {pattern : List Char}
    (h : pattern ≠ [])
    (cs : List Char) :
    Text.byteSize (splitAfter pattern cs).1 =
      match findText? pattern cs with
      | none => Text.byteSize cs
      | some place => place + Text.byteSize pattern := by
  induction cs with
  | nil =>
      have hnot : pattern.isPrefixOf [] = false := by
        cases pattern with
        | nil => exact absurd rfl h
        | cons => rfl
      simp [splitAfter, findText?, hnot]
  | cons c rest ih =>
      by_cases hprefix : pattern.isPrefixOf (c :: rest) = true
      · have htake : (c :: rest).take pattern.length = pattern :=
          (List.prefix_iff_eq_take.mp (List.isPrefixOf_iff_prefix.mp hprefix)).symm
        simp [splitAfter, findText?, hprefix, htake]
      · simp only [splitAfter, findText?, hprefix, Text.byteSize_cons, Bool.false_eq_true,
          if_false, ih]
        cases findText? pattern rest with
        | none => rfl
        | some place => exact (Nat.add_assoc _ _ _).symm

/-- A character is found behind all others before it. -/
theorem findText?_singleton (c : Char) (cs : List Char) :
    findText? [c] cs =
      if c ∈ cs then some (Text.byteSize (cs.takeWhile (· ≠ c))) else none := by
  induction cs with
  | nil =>
      rfl
  | cons d rest ih =>
      by_cases hd : d = c
      · simp [findText?, hd]
      · have hne : ¬c = d := fun heq => hd heq.symm
        by_cases hmem : c ∈ rest <;> simp [findText?, hd, hne, ih, hmem]

end Patterns

section Ends

variable (before : List Char)

/-- A line ends at the same place. -/
theorem lineEnd?_encode (after : List Char) :
    lineEnd? (Text.encode (before ++ after)) (Text.byteSize before) =
      some (Text.byteSize before + Text.byteSize (splitLine after).1) := by
  rw [lineEnd?, Text.byteSlice?_encode_rest]
  simp only [bind, Option.bind, pure, Text.takeWhile_encode (d := '\n') (by decide),
    Text.length_encode, splitLine]

/-- So does a block comment, whether or not it is closed. -/
theorem blockEnd?_encode (rest : List Char) :
    blockEnd? (Text.encode (before ++ '/' :: '*' :: rest)) (Text.byteSize before) =
      some (Text.byteSize before + 2 + Text.byteSize (splitAfter ['*', '/'] rest).1) := by
  have hslash : ('/' : Char).utf8Size = 1 ∧ ('*' : Char).utf8Size = 1 := by decide
  rw [blockEnd?, Text.textSlice?_encode_rest (before ++ ['/', '*']) rest (by simp)
    (by simp [hslash]), byteSize_splitAfter (by simp)]
  simp only [bind, Option.bind, pure]
  cases findText? ['*', '/'] rest with
  | none =>
      simp [Text.length_encode, hslash]
      omega
  | some place =>
      simp [hslash]
      omega

theorem isAscii_isIdentifierChar : Text.IsAscii Text.isIdentifierChar := by
  intro c hc
  simp only [Text.isIdentifierChar, Text.isAlphanumeric, Text.isDigit, Bool.or_eq_true,
    Bool.and_eq_true, decide_eq_true_eq, beq_iff_eq] at hc
  rcases hc with ((hdigit | hsmall) | hcapital) | rfl
  · exact Nat.lt_of_le_of_lt hdigit.2 (by decide)
  · exact Nat.lt_of_le_of_lt hsmall.2 (by decide)
  · exact Nat.lt_of_le_of_lt hcapital.2 (by decide)
  · decide

theorem isAscii_isDigit : Text.IsAscii Text.isDigit := by
  intro c hc
  refine isAscii_isIdentifierChar c ?_
  simp [Text.isIdentifierChar, Text.isAlphanumeric, hc]

theorem isAscii_isHexDigit : Text.IsAscii Text.isHexDigit := by
  intro c hc
  rw [Text.isHexDigit, Text.hexValue?] at hc
  split at hc
  · next hdigit =>
    exact isAscii_isDigit c hdigit
  · split at hc
    · next hsmall =>
      rw [Bool.and_eq_true, decide_eq_true_eq, decide_eq_true_eq] at hsmall
      exact Nat.lt_of_le_of_lt hsmall.2 (by decide)
    · split at hc
      · next hcapital =>
        rw [Bool.and_eq_true, decide_eq_true_eq, decide_eq_true_eq] at hcapital
        exact Nat.lt_of_le_of_lt hcapital.2 (by decide)
      · cases hc

/-- The reader finds where the last word begins. -/
theorem exists_lastWord_eq :
    ∃ start, before = start ++ lastWord before ∧
      ∀ after, wordStart? (Text.encode (before ++ after)) (Text.byteSize before) =
        some (Text.byteSize start) := by
  refine ⟨before.rdropWhile Text.isIdentifierChar, List.rdropWhile_append_rtakeWhile.symm, ?_⟩
  intro after
  rw [wordStart?, Text.byteSlice?_encode_start]
  simp only [bind, Option.bind, pure, isAscii_isIdentifierChar.rdropWhile_encode,
    Text.length_encode]

/-- The same quotes open raw literals. -/
theorem opensRaw?_encode (after : List Char) :
    opensRaw? (Text.encode (before ++ after)) (Text.byteSize before) =
      some (rawMarks.contains (lastWord before).reverse) := by
  obtain ⟨start, hbefore, hstart⟩ := exists_lastWord_eq before
  have hslice : Text.byteSlice? (Text.encode (before ++ after)) (Text.byteSize start)
      (Text.byteSize before) = some (Text.encode (lastWord before)) :=
    Text.byteSlice?_encode start (lastWord before) after
      (by rw [← List.append_assoc, ← hbefore]) rfl (by rw [← Text.byteSize_append, ← hbefore])
  have hcontains : (rawPrefixes.map Text.encode).contains (Text.encode (lastWord before)) =
      rawMarks.contains (lastWord before).reverse := by
    rw [Bool.eq_iff_iff, List.contains_iff_mem, List.contains_iff_mem, reverse_mem_rawMarks_iff,
      List.mem_map_of_injective Text.encode_injective]
  rw [opensRaw?, hstart]
  simp only [bind, Option.bind, pure, hslice, hcontains]

/-- A quote behind a word separates digits if the word begins with one and another follows. -/
theorem separatesDigits_reverse_cons (first : Char) (others rest : List Char) :
    separatesDigits (first :: others).reverse rest =
      (Text.isDigit first && rest.head?.any Text.isHexDigit) := by
  unfold separatesDigits
  rw [List.getLast?_reverse]
  cases rest with
  | nil => exact (Bool.and_false _).symm
  | cons c after => rfl

/-- The same quotes separate digits. -/
theorem separatesDigits?_encode (rest : List Char) :
    separatesDigits? (Text.encode (before ++ '\'' :: rest)) (Text.byteSize before) =
      some (separatesDigits (lastWord before).reverse rest) := by
  obtain ⟨start, hbefore, hstart⟩ := exists_lastWord_eq before
  have hsize : Text.byteSize before = Text.byteSize start + Text.byteSize (lastWord before) := by
    rw [← Text.byteSize_append, ← hbefore]
  have hquote : ('\'' : Char).utf8Size = 1 := by decide
  have hnext : (Text.encode (before ++ '\'' :: rest))[Text.byteSize before + 1]? =
      rest.head?.map Text.leadByte :=
    Text.getElem?_encode (before ++ ['\'']) rest (by simp) (by simp [hquote])
  rw [separatesDigits?, hstart]
  simp only [bind, Option.bind, pure]
  cases hword : lastWord before with
  | nil =>
      have hnot : ¬Text.byteSize start < Text.byteSize before := by
        rw [hsize, hword]
        simp
      rw [if_neg hnot]
      rfl
  | cons first others =>
      have hlt : Text.byteSize start < Text.byteSize before := by
        rw [hsize, hword, Text.byteSize_cons]
        have := first.utf8Size_pos
        omega
      have hfirst : (Text.encode (before ++ '\'' :: rest))[Text.byteSize start]? =
          some (Text.leadByte first) :=
        Text.getElem?_encode start (first :: others ++ '\'' :: rest)
          (by rw [← List.append_assoc, ← hword, ← hbefore]) rfl
      rw [if_pos hlt, hfirst, hnext, separatesDigits_reverse_cons, Option.any_map]
      simp only [isAscii_isDigit.leadByte]
      cases rest with
      | nil => rfl
      | cons c after => exact congrArg some (congrArg _ (isAscii_isHexDigit.leadByte c))

theorem takeWhile_ne_append
    {c : Char} {text : List Char}
    (h : c ∉ text)
    (after : List Char) :
    (text ++ c :: after).takeWhile (· ≠ c) = text := by
  rw [List.takeWhile_append_of_pos, List.takeWhile_cons_of_neg (by simp), List.append_nil]
  intro d hd
  rw [decide_eq_true_eq]
  rintro rfl
  exact h hd

/-- The delimiter of a raw literal stands before the first parenthesis. -/
theorem rawDelimiter?_append
    {delimiter : List Char}
    (h : '(' ∉ delimiter)
    (tail : List Char) :
    rawDelimiter? (delimiter ++ '(' :: tail) =
      if 16 < Text.byteSize delimiter || delimiter.any endsDelimiter then none
      else some delimiter := by
  rw [rawDelimiter?, takeWhile_ne_append h, if_neg (by simp)]

theorem rawDelimiter?_of_notMem
    {rest : List Char}
    (h : '(' ∉ rest) :
    rawDelimiter? rest = none := by
  have hall : rest.takeWhile (· ≠ '(') = rest := by
    rw [List.takeWhile_eq_self_iff]
    intro c hc
    rw [decide_eq_true_eq]
    rintro rfl
    exact h hc
  rw [rawDelimiter?, hall, if_pos rfl]

/-- A raw literal ends at the same place, well-formed or not. -/
theorem rawEnd?_encode (rest : List Char) :
    rawEnd? (Text.encode (before ++ '"' :: rest)) (Text.byteSize before) =
      some (Text.byteSize before + 1 + Text.byteSize (splitRaw rest).1) := by
  have hsizes : ('"' : Char).utf8Size = 1 ∧ ('(' : Char).utf8Size = 1 := by decide
  have hline : lineEnd? (Text.encode (before ++ '"' :: rest)) (Text.byteSize before) =
      some (Text.byteSize before + 1 + Text.byteSize (splitLine rest).1) := by
    rw [lineEnd?_encode]
    simp [splitLine, hsizes, Nat.add_assoc]
  rw [rawEnd?, Text.textSlice?_encode_rest (before ++ ['"']) rest (by simp) (by simp [hsizes])]
  simp only [bind, Option.bind, pure, findText?_singleton, hline]
  by_cases hparen : '(' ∈ rest
  · obtain ⟨delimiter, tail, rfl, hdelimiter⟩ := List.eq_append_cons_of_mem hparen
    have hraw := rawDelimiter?_append hdelimiter tail
    rw [if_pos hparen, takeWhile_ne_append hdelimiter]
    simp only
    rw [Text.textSlice?_encode (before ++ ['"']) delimiter ('(' :: tail) (by simp)
      (by simp [hsizes]) (by simp [hsizes])]
    simp only
    by_cases hfaulty : (16 < Text.byteSize delimiter || delimiter.any endsDelimiter) = true
    · rw [if_pos hfaulty] at hraw ⊢
      rw [splitRaw, hraw]
    · rw [if_neg hfaulty] at hraw ⊢
      rw [Text.textSlice?_encode_rest (before ++ '"' :: delimiter ++ ['(']) tail (by simp)
        (by simp [hsizes, Nat.add_assoc])]
      have hend : Text.byteSize (splitAfter (')' :: delimiter ++ ['"']) tail).1 = _ :=
        byteSize_splitAfter (by simp) tail
      rw [splitRaw, hraw]
      simp only
      rw [List.take_length_add_append, List.drop_length_add_append, List.drop_one, List.tail_cons,
        Text.byteSize_append (_ ++ _), hend]
      cases findText? (')' :: delimiter ++ ['"']) tail with
      | none =>
          simp [Text.length_encode, hsizes]
          omega
      | some place =>
          simp [hsizes]
          omega
  · rw [if_neg hparen, splitRaw, rawDelimiter?_of_notMem hparen]

theorem quotedStop_of_some
    {bytes : List UInt8} {quote byte : UInt8} {offset : Nat}
    (h : bytes[offset]? = some byte) :
    quotedStop bytes quote offset =
      if byte = quote ∨ byte = '\n'.toUInt8 then offset
      else quotedStop bytes quote (offset + if byte = '\\'.toUInt8 then 2 else 1) := by
  rw [quotedStop]
  split
  · next hnone =>
    rw [h] at hnone
    cases hnone
  · next other hother =>
    rw [h] at hother
    cases hother
    rfl

theorem quotedStop_of_none
    {bytes : List UInt8} {offset : Nat}
    (h : bytes[offset]? = none)
    (quote : UInt8) :
    quotedStop bytes quote offset = offset := by
  rw [quotedStop]
  split
  · rfl
  · next other hother =>
    rw [h] at hother
    cases hother

/-- The loop over a literal passes the bytes within a character. -/
theorem quotedStop_past
    {quote : UInt8} {others : List UInt8}
    (hquote : quote.toNat < 128)
    (h : ∀ byte ∈ others, 128 ≤ byte.toNat)
    (front behind : List UInt8) :
    quotedStop (front ++ (others ++ behind)) quote front.length =
      quotedStop (front ++ (others ++ behind)) quote (front.length + others.length) := by
  induction others generalizing front with
  | nil =>
      rfl
  | cons byte others ih =>
      have hget : (front ++ (byte :: others ++ behind))[front.length]? = some byte := by
        simp
      have hlarge := h byte List.mem_cons_self
      have hnot (small : UInt8) (hsmall : small.toNat < 128) : byte ≠ small := by
        rintro rfl
        omega
      have hrest := ih (fun other hother => h other (List.mem_cons_of_mem _ hother))
        (front ++ [byte])
      rw [List.length_append, List.length_singleton, List.append_assoc] at hrest
      rw [quotedStop_of_some hget, if_neg, if_neg (hnot _ (by decide)), List.length_cons,
        Nat.add_comm others.length, ← Nat.add_assoc]
      · exact hrest
      · rw [not_or]
        exact ⟨hnot _ hquote, hnot _ (by decide)⟩

/-- Once past the first byte of a character the loop goes on behind it. -/
theorem quotedStop_pastChar
    {quote : UInt8}
    (hquote : quote.toNat < 128)
    (before : List Char) (c : Char) (rest : List Char) :
    quotedStop (Text.encode (before ++ c :: rest)) quote (Text.byteSize before + 1) =
      quotedStop (Text.encode (before ++ c :: rest)) quote (Text.byteSize (before ++ [c])) := by
  obtain ⟨others, hbytes, hothers⟩ := Text.exists_encodeChar_eq_cons c
  have hpast := quotedStop_past hquote hothers (Text.encode before ++ [Text.leadByte c])
    (Text.encode rest)
  have hsize : c.utf8Size = 1 + others.length := by
    rw [← String.length_utf8EncodeChar, hbytes, List.length_cons, Nat.add_comm]
  rw [List.length_append, List.length_singleton, Text.length_encode, Nat.add_assoc] at hpast
  rw [Text.encode_append, Text.encode_cons, hbytes, Text.byteSize_append, Text.byteSize_cons,
    hsize]
  simpa using hpast

/-- The loop over a literal comes to where the literal ends. -/
theorem closeAt_quotedStop
    {quote : Char}
    (hquote : quote = '"' ∨ quote = '\'')
    (before cs : List Char) :
    closeAt (Text.encode (before ++ cs)) quote.toUInt8
        (quotedStop (Text.encode (before ++ cs)) quote.toUInt8 (Text.byteSize before)) =
      Text.byteSize before + Text.byteSize (splitQuoted quote cs).1 := by
  have hsmall : quote.toNat < 128 := by
    rcases hquote with rfl | rfl <;> decide
  have hnumber : quote.toUInt8.toNat < 128 := by
    rwa [Text.toNat_toUInt8_of_lt hsmall]
  have hsizes : quote.utf8Size = 1 ∧ ('\\' : Char).utf8Size = 1 := by
    rcases hquote with rfl | rfl <;> decide
  -- the byte at which a round of the loop looks
  have hfirst (before : List Char) (c : Char) (rest : List Char) :
      (Text.encode (before ++ c :: rest))[Text.byteSize before]? = some (Text.leadByte c) :=
    Text.getElem?_encode before (c :: rest) rfl rfl
  have hend (before : List Char) :
      (Text.encode before)[Text.byteSize before]? = none :=
    Text.getElem?_encode before [] (by rw [List.append_nil]) rfl
  have hpasses (c : Char) (hne : c ≠ quote) (hfeed : c ≠ '\n') :
      ¬(Text.leadByte c = quote.toUInt8 ∨ Text.leadByte c = '\n'.toUInt8) := by
    rw [Text.leadByte_eq_iff hsmall, Text.leadByte_eq_iff (by decide), not_or]
    exact ⟨hne, hfeed⟩
  fun_induction splitQuoted quote cs generalizing before with
  | case1 =>
      rw [List.append_nil, quotedStop_of_none (hend before), closeAt, hend, if_neg (by simp),
        Text.length_encode]
      simp
  | case2 rest =>
      have hget := hfirst before quote rest
      rw [Text.leadByte_of_lt hsmall] at hget
      rw [quotedStop_of_some hget, if_pos (Or.inl rfl), closeAt, if_pos hget]
      simp [hsizes]
  | case3 rest hne =>
      have hget := hfirst before '\n' rest
      have hnot : Text.leadByte '\n' ≠ quote.toUInt8 := fun heq =>
        hne ((Text.leadByte_eq_iff hsmall).mp heq)
      rw [quotedStop_of_some hget, if_pos (Or.inr (by decide)), closeAt, hget,
        if_neg (by simpa using hnot), Text.length_encode]
      simp
  | case4 hne hfeed =>
      have hget := hfirst before '\\' []
      have hlead : Text.leadByte '\\' = '\\'.toUInt8 := Text.leadByte_of_lt (by decide)
      have hgone : (Text.encode (before ++ ['\\']))[Text.byteSize before + 2]? = none := by
        rw [List.getElem?_eq_none_iff, Text.length_encode, Text.byteSize_append]
        simp [hsizes]
      rw [quotedStop_of_some hget, if_neg, if_pos hlead, quotedStop_of_none hgone, closeAt, hgone,
        if_neg (by simp), Text.length_encode]
      · simp [hsizes]
      · exact hpasses _ hne hfeed
  | case5 c rest text following hsplit hne hfeed ih =>
      have hget := hfirst before '\\' (c :: rest)
      have hlead : Text.leadByte '\\' = '\\'.toUInt8 := Text.leadByte_of_lt (by decide)
      have hpast := quotedStop_pastChar hnumber (before ++ ['\\']) c rest
      have hrest := ih (before ++ ['\\'] ++ [c])
      simp only [hsplit, List.append_assoc, List.cons_append, List.nil_append, Text.byteSize_append,
        Text.byteSize_cons, Text.byteSize_nil, hsizes] at hpast hrest ⊢
      rw [quotedStop_of_some hget, if_neg (hpasses _ hne hfeed), if_pos hlead]
      rw [hpast, hrest]
      omega
  | case6 c rest hne hfeed hslash text following hsplit ih =>
      have hget := hfirst before c rest
      have hnot : Text.leadByte c ≠ '\\'.toUInt8 := fun heq =>
        hslash ((Text.leadByte_eq_iff (by decide)).mp heq)
      have hpast := quotedStop_pastChar hnumber before c rest
      have hrest := ih (before ++ [c])
      simp only [hsplit, List.append_assoc, List.cons_append, List.nil_append, Text.byteSize_append,
        Text.byteSize_cons, Text.byteSize_nil] at hpast hrest ⊢
      rw [quotedStop_of_some hget, if_neg (hpasses _ hne hfeed), if_neg hnot, hpast, hrest]
      omega

/-- **A literal ends at the same place**, whatever its backslashes take along. -/
theorem quotedEnd_encode
    {quote : Char}
    (hquote : quote = '"' ∨ quote = '\'')
    (before rest : List Char) :
    quotedEnd (Text.encode (before ++ quote :: rest)) quote.toUInt8 (Text.byteSize before) =
      Text.byteSize before + 1 + Text.byteSize (splitQuoted quote rest).1 := by
  have hsize : Text.byteSize (before ++ [quote]) = Text.byteSize before + 1 := by
    rw [Text.byteSize_append]
    rcases hquote with rfl | rfl <;> rfl
  have hclose := closeAt_quotedStop hquote (before ++ [quote]) rest
  rw [hsize, List.append_assoc] at hclose
  exact hclose

end Ends

end Snippet
end EpaperLayout
