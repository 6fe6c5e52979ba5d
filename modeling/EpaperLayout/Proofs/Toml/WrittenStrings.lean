import EpaperLayout.Toml.Reader
import EpaperLayout.Toml.Writing
import Mathlib.Data.List.TakeWhile

/-!
# Written strings are read back

A string is written in one of four forms, and the reader of strings recognizes the form
by its opening quotes.  Whichever form is chosen, the reader gives the string back and
stops behind its closing quotes, if the line ends there.

**Characters.**  Between double quotes a character stands for itself or is written as
an escape (`escapeChar_cases`); the same is read in the short and in the long form.

**Quotes in long strings.**  Up to two quotes may stand next to each other unescaped.
Quotes at the end of the string touch the three closing ones, which makes five at most;
`LongBody` is how a long string may be written so that its reader sees this.

**Results.**
* `basicString?_escapeFrom`, `literalString?_append`: strings in one line.
* `longString?_of_longBody`: strings in several lines.
* `string?_writeString`: strings in the form in which they are written.
* `value?_writeString`: the same where any value may stand.
-/

namespace EpaperLayout
namespace Toml

section Characters

/-- The four digits of a character that is only written with an escape. -/
theorem codePoint?_upperDigits
    {c : Char}
    (h : needsEscape c = true)
    (rest : List Char) :
    codePoint? 4 ((Text.paddedDigits 16 4 c.toNat).map Text.upperDigit ++ rest) =
      some (c, rest) := by
  have hall : ∀ k : Fin 0x80,
      ((Text.paddedDigits 16 4 k).map Text.upperDigit).length = 4 ∧
        Text.hexadecimal? ((Text.paddedDigits 16 4 k).map Text.upperDigit) = some k.val := by
    decide +kernel
  have hsmall : c.toNat < 0x80 := by
    simp only [needsEscape, Bool.or_eq_true, Bool.and_eq_true, decide_eq_true_eq] at h
    omega
  obtain ⟨hlength, hvalue⟩ := hall ⟨c.toNat, hsmall⟩
  rw [codePoint?, List.take_left' hlength, List.drop_left' hlength, hlength,
    if_neg (Nat.lt_irrefl 4), hvalue]
  have hvalid : c.toNat.isValidChar := c.valid
  simp only [bind, Option.bind, if_pos hvalid, Char.ofNat_toNat]

/-- Between double quotes a character is written as itself, or as a backslash with an escape that
stands for it. -/
theorem escapeChar_cases (long : Bool) (c : Char) :
    (escapeChar long c = [c] ∧ c ≠ '\\' ∧ c ≠ '\r' ∧ (c = '\n' → long = true) ∧
        (c ≠ '\n' → isRefused c = false)) ∨
      ∃ letter tail, escapeChar long c = '\\' :: letter :: tail ∧
        letter ≠ '\n' ∧ letter ≠ '\r' ∧ isBlank letter = false ∧
        ∀ rest, escape? (letter :: (tail ++ rest)) = some (c, rest) := by
  have hletter (letter d : Char) (hescape : ∀ rest, escape? (letter :: rest) = some (d, rest))
      (hletter : letter ≠ '\n' ∧ letter ≠ '\r' ∧ isBlank letter = false) (hd : c = d) :
      ∃ other tail, ['\\', letter] = '\\' :: other :: tail ∧
        other ≠ '\n' ∧ other ≠ '\r' ∧ isBlank other = false ∧
        ∀ rest, escape? (other :: (tail ++ rest)) = some (c, rest) :=
    ⟨letter, [], rfl, hletter.1, hletter.2.1, hletter.2.2, hd ▸ hescape⟩
  have hcode (n : Nat) (h : c.toNat = n) : c = Char.ofNat n := by
    rw [← h, Char.ofNat_toNat]
  unfold escapeChar
  split
  · exact Or.inr (hletter '\\' _ (fun _ => rfl) (by decide) ‹_›)
  · next hbackslash =>
    split
    · next hnewline =>
      split
      · next hlong =>
        refine Or.inl ⟨by rw [hnewline], hbackslash, ?_, fun _ => hlong, fun h => absurd hnewline h⟩
        rw [hnewline]
        decide
      · exact Or.inr (hletter 'n' _ (fun _ => rfl) (by decide) hnewline)
    · next hnewline =>
      split
      · exact Or.inr (hletter 't' _ (fun _ => rfl) (by decide) ‹_›)
      · next htab =>
        split
        · exact Or.inr (hletter 'r' _ (fun _ => rfl) (by decide) ‹_›)
        · next hreturn =>
          split
          · exact Or.inr (hletter 'b' _ (fun _ => rfl) (by decide) (hcode _ ‹_›))
          · split
            · exact Or.inr (hletter 'f' _ (fun _ => rfl) (by decide) (hcode _ ‹_›))
            · split
              · next hneeds =>
                exact Or.inr ⟨'u', _, rfl, by decide, by decide, rfl, codePoint?_upperDigits hneeds⟩
              · next hneeds =>
                refine Or.inl ⟨rfl, hbackslash, hreturn, fun h => absurd h hnewline, fun _ => ?_⟩
                simpa [needsEscape, isRefused, htab, hnewline] using hneeds

end Characters

section ShortStrings

theorem basicString?_escape
    {c : Char} {cs after : List Char}
    (h : escape? cs = some (c, after))
    (count : Nat) :
    basicString? (count + 1) ('\\' :: cs) =
      (basicString? count after).map fun read => (c :: read.1, read.2) := by
  rw [basicString?, h]
  simp only [bind, Option.bind]
  cases basicString? count after <;> rfl

theorem basicString?_plain
    {c : Char}
    (hquote : c ≠ '"')
    (hbackslash : c ≠ '\\')
    (hrefused : isRefused c = false)
    (count : Nat)
    (cs : List Char) :
    basicString? (count + 1) (c :: cs) =
      (basicString? count cs).map fun read => (c :: read.1, read.2) := by
  rw [basicString?.eq_4 _ _ _ hquote hbackslash, hrefused]
  cases basicString? count cs <;> rfl

/-- **A string between double quotes is read back.** -/
theorem basicString?_escapeFrom
    {cs : List Char} {count : Nat}
    (h : cs.length < count)
    (run : Nat)
    (rest : List Char) :
    basicString? count (escapeFrom false 0 run cs ++ '"' :: rest) = some (cs, rest) := by
  induction cs generalizing count run with
  | nil =>
      obtain ⟨count, rfl⟩ := Nat.exists_eq_add_one_of_ne_zero (Nat.ne_of_gt h)
      rfl
  | cons c cs ih =>
      obtain ⟨count, rfl⟩ := Nat.exists_eq_add_one_of_ne_zero (Nat.ne_of_gt (Nat.zero_lt_of_lt h))
      have hrest := ih (Nat.lt_of_succ_lt_succ h) 0
      rw [escapeFrom]
      by_cases hquote : c = '"'
      · have hescape : escape? ('"' :: (escapeFrom false 0 0 cs ++ '"' :: rest)) =
            some (c, escapeFrom false 0 0 cs ++ '"' :: rest) := by
          rw [hquote]
          rfl
        rw [if_pos hquote, if_neg (Nat.not_lt_zero run), List.cons_append, List.cons_append,
          basicString?_escape hescape, hrest]
        rfl
      · rw [if_neg hquote, List.append_assoc]
        rcases escapeChar_cases false c with
          ⟨hchar, hbackslash, -, hnewline, hrefused⟩ | ⟨letter, tail, hchar, -, -, -, hescape⟩
        · have hline : c ≠ '\n' := fun heq => Bool.false_ne_true (hnewline heq)
          rw [hchar, List.singleton_append, basicString?_plain hquote hbackslash (hrefused hline),
            hrest]
          rfl
        · rw [hchar, List.cons_append, List.cons_append, basicString?_escape (hescape _), hrest]
          rfl

/-- **A string between single quotes is read back.** -/
theorem literalString?_append
    {cs : List Char}
    (h : ∀ c ∈ cs, c ≠ '\'' ∧ isRefused c = false)
    (rest : List Char) :
    literalString? (cs ++ '\'' :: rest) = some (cs, rest) := by
  have hspan : (cs ++ '\'' :: rest).takeWhile (fun c => c ≠ '\'' && !isRefused c) = cs := by
    rw [List.takeWhile_append_of_pos (by simpa using h)]
    simp
  rw [literalString?, hspan, List.drop_left]
  rfl

end ShortStrings

section LongStrings

/-- How a long string may be written between its quotes, when `run` quotes stand just before: up to
two quotes next to each other, and for any other character what is read as this character. -/
inductive LongBody (quote : Char) (escapes : Bool) : (run : Nat) → List Char → List Char → Prop
  | nil {run : Nat} : LongBody quote escapes run [] []
  | quote {run : Nat} {cs text : List Char} :
      run < 2 → LongBody quote escapes (run + 1) cs text →
      LongBody quote escapes run (quote :: cs) (quote :: text)
  | char {run : Nat} {c first : Char} {cs text : List Char} (tail : List Char) :
      first ≠ quote →
      (∀ count rest, longString? quote escapes (count + 1) (first :: (tail ++ rest)) =
        (longString? quote escapes count rest).map fun read => (c :: read.1, read.2)) →
      LongBody quote escapes 0 cs text →
      LongBody quote escapes run (c :: cs) (first :: (tail ++ text))

theorem afterLineEnd?_eq_none
    {c : Char}
    (hnewline : c ≠ '\n')
    (hreturn : c ≠ '\r')
    (cs : List Char) :
    afterLineEnd? (c :: cs) = none := by
  rw [afterLineEnd?.eq_3]
  · exact fun _ heq => hnewline (List.cons.inj heq).1
  · exact fun _ heq => hreturn (List.cons.inj heq).1

variable {quote : Char} {escapes : Bool}

/-- The quotes in front of a written body, up to what it is followed by. -/
theorem LongBody.length_takeWhile
    {run : Nat} {cs text : List Char}
    (h : LongBody quote escapes run cs text)
    (hrun : run ≤ 2)
    (rest : List Char) :
    ((∀ c ∈ cs, c = quote) ∧ text = cs ∧ cs.length + run ≤ 2) ∨
      ((text ++ quote :: quote :: quote :: rest).takeWhile (· = quote)).length + run ≤ 2 := by
  induction h with
  | nil =>
      exact Or.inl ⟨by simp, rfl, by simpa using hrun⟩
  | @quote run cs text hlt _ ih =>
      rcases ih (by omega) with ⟨hall, rfl, hlength⟩ | hlength
      · refine Or.inl ⟨List.forall_mem_cons.mpr ⟨rfl, hall⟩, rfl, ?_⟩
        rw [List.length_cons]
        omega
      · refine Or.inr ?_
        rw [List.cons_append, List.takeWhile_cons_of_pos (by simp), List.length_cons]
        omega
  | char tail hfirst =>
      refine Or.inr ?_
      rw [List.cons_append, List.takeWhile_cons_of_neg (by simpa using hfirst)]
      simpa using hrun

theorem longString?_quote
    {cs : List Char}
    (h : ((quote :: cs).takeWhile (· = quote)).length < 3)
    (count : Nat) :
    longString? quote escapes (count + 1) (quote :: cs) =
      (longString? quote escapes count cs).map fun read => (quote :: read.1, read.2) := by
  rw [longString?]
  simp only [if_true, if_pos h]
  cases longString? quote escapes count cs <;> rfl

theorem longString?_end
    {quotes rest : List Char}
    (hquotes : ∀ c ∈ quotes, c = quote)
    (hlength : quotes.length ≤ 2)
    (hrest : rest.head? ≠ some quote)
    (count : Nat) :
    longString? quote escapes (count + 1) (quotes ++ quote :: quote :: quote :: rest) =
      some (quotes, rest) := by
  obtain ⟨n, hn⟩ : ∃ n, quotes.length = n := ⟨_, rfl⟩
  have hreplicate : quotes = List.replicate n quote := List.eq_replicate_iff.mpr ⟨hn, hquotes⟩
  have htext : quotes ++ quote :: quote :: quote :: rest =
      List.replicate (n + 3) quote ++ rest := by
    rw [hreplicate, ← List.replicate_append_replicate, List.append_assoc]
    rfl
  have hspan : (List.replicate (n + 3) quote ++ rest).takeWhile (· = quote) =
      List.replicate (n + 3) quote := by
    rw [List.takeWhile_append_of_pos (by simp)]
    cases rest with
    | nil => simp
    | cons c rest =>
        have hc : c ≠ quote := by simpa using hrest
        simp [hc]
  have hread : longString? quote escapes (count + 1) (List.replicate (n + 3) quote ++ rest) =
      some (List.replicate n quote, rest) := by
    have hcons : List.replicate (n + 3) quote ++ rest =
        quote :: (List.replicate (n + 2) quote ++ rest) := rfl
    rw [hcons] at hspan ⊢
    rw [longString?]
    simp only [if_true, hspan, List.length_replicate]
    rw [if_neg (by omega), if_neg (by omega), List.drop_replicate, ← hcons,
      List.drop_left' (List.length_replicate)]
    simp
  rw [htext, hread, hreplicate]

theorem longString?_newline
    (hquote : '\n' ≠ quote)
    (count : Nat)
    (cs : List Char) :
    longString? quote escapes (count + 1) ('\n' :: cs) =
      (longString? quote escapes count cs).map fun read => ('\n' :: read.1, read.2) := by
  rw [longString?]
  simp only [if_neg hquote, afterLineEnd?]
  cases longString? quote escapes count cs <;> rfl

theorem longString?_plain
    {c : Char}
    (hquote : c ≠ quote)
    (hnewline : c ≠ '\n')
    (hreturn : c ≠ '\r')
    (hbackslash : escapes = true → c ≠ '\\')
    (hrefused : isRefused c = false)
    (count : Nat)
    (cs : List Char) :
    longString? quote escapes (count + 1) (c :: cs) =
      (longString? quote escapes count cs).map fun read => (c :: read.1, read.2) := by
  have hescape : ¬(escapes && decide (c = '\\')) = true := by
    rw [Bool.and_eq_true, decide_eq_true_eq]
    exact fun h => hbackslash h.1 h.2
  rw [longString?]
  simp only [if_neg hquote, afterLineEnd?_eq_none hnewline hreturn, if_neg hescape, hrefused,
    Bool.false_eq_true, if_false]
  cases longString? quote escapes count cs <;> rfl

theorem longString?_escape
    {c letter : Char} {cs after : List Char}
    (hquote : '\\' ≠ quote)
    (hletter : letter ≠ '\n' ∧ letter ≠ '\r' ∧ isBlank letter = false)
    (hescape : escape? (letter :: cs) = some (c, after))
    (count : Nat) :
    longString? quote true (count + 1) ('\\' :: letter :: cs) =
      (longString? quote true count after).map fun read => (c :: read.1, read.2) := by
  have hjoined : afterJoinedLines? (letter :: cs) = none := by
    have hskip : skipBlanks (letter :: cs) = letter :: cs :=
      List.dropWhile_cons_of_neg (by simp [hletter.2.2])
    rw [afterJoinedLines?, hskip, afterLineEnd?_eq_none hletter.1 hletter.2.1]
    rfl
  rw [longString?]
  simp only [if_neg hquote, hjoined, hescape, bind, Option.bind]
  cases longString? quote true count after <;> rfl

/-- **A long string is read back.** -/
theorem longString?_of_longBody
    {run count : Nat} {cs text rest : List Char}
    (h : LongBody quote escapes run cs text)
    (hrun : run ≤ 2)
    (hcount : cs.length < count)
    (hrest : rest.head? ≠ some quote) :
    longString? quote escapes count (text ++ quote :: quote :: quote :: rest) =
      some (cs, rest) := by
  obtain ⟨count, rfl⟩ := Nat.exists_eq_add_one_of_ne_zero (Nat.ne_of_gt (Nat.zero_lt_of_lt hcount))
  induction h generalizing count with
  | nil =>
      exact longString?_end (by simp : ∀ c ∈ [], c = quote) (Nat.zero_le _) hrest count
  | @quote run cs text hlt hbody ih =>
      have hwhole : LongBody quote escapes run (quote :: cs) (quote :: text) := .quote hlt hbody
      rcases hwhole.length_takeWhile hrun rest with ⟨hall, htext, hlength⟩ | hlength
      · rw [htext]
        exact longString?_end hall (by omega) hrest count
      · obtain ⟨count, rfl⟩ := Nat.exists_eq_add_one_of_ne_zero
          (Nat.ne_of_gt (Nat.zero_lt_of_lt (Nat.lt_of_succ_lt_succ hcount)))
        rw [List.cons_append] at hlength ⊢
        rw [longString?_quote (by omega), ih hlt _ (Nat.lt_of_succ_lt_succ hcount)]
        rfl
  | char tail hfirst hreads hbody ih =>
      obtain ⟨count, rfl⟩ := Nat.exists_eq_add_one_of_ne_zero
        (Nat.ne_of_gt (Nat.zero_lt_of_lt (Nat.lt_of_succ_lt_succ hcount)))
      rw [List.cons_append, List.append_assoc, hreads, ih (Nat.zero_le _) _
        (Nat.lt_of_succ_lt_succ hcount)]
      rfl

/-- The long form between double quotes. -/
theorem longBody_escapeFrom (run : Nat) (cs : List Char) :
    LongBody '"' true run cs (escapeFrom true 2 run cs) := by
  induction cs generalizing run with
  | nil =>
      exact .nil
  | cons c cs ih =>
      have hbackslash : '\\' ≠ '"' := by decide
      rw [escapeFrom]
      by_cases hquote : c = '"'
      · rw [if_pos hquote, hquote]
        by_cases hrun : run < 2
        · rw [if_pos hrun]
          exact .quote hrun (ih _)
        · rw [if_neg hrun]
          refine .char ['"'] hbackslash ?_ (ih 0)
          intro count rest
          exact longString?_escape hbackslash (by decide) rfl count
      · rw [if_neg hquote]
        rcases escapeChar_cases true c with
          ⟨hchar, hplain, hreturn, -, hrefused⟩ |
          ⟨letter, tail, hchar, hnewline, hreturn, hblank, hescape⟩
        · rw [hchar]
          refine .char [] hquote ?_ (ih 0)
          intro count rest
          by_cases hline : c = '\n'
          · rw [hline]
            exact longString?_newline (by decide) count rest
          · exact longString?_plain hquote hline hreturn (fun _ => hplain) (hrefused hline) count
              rest
        · rw [hchar]
          refine .char (letter :: tail) hbackslash ?_ (ih 0)
          intro count rest
          exact longString?_escape hbackslash ⟨hnewline, hreturn, hblank⟩ (hescape rest) count

theorem le_longestRun (quote : Char) (run : Nat) (cs : List Char) :
    run ≤ longestRun quote run cs := by
  induction cs generalizing run with
  | nil =>
      exact Nat.le_refl _
  | cons c cs ih =>
      rw [longestRun]
      split
      · exact Nat.le_trans (Nat.le_succ run) (ih _)
      · exact Nat.le_max_left _ _

theorem isRefused_of_needsEscape
    {c : Char}
    (h : needsEscape c = false)
    (hnewline : c ≠ '\n') :
    isRefused c = false := by
  simpa [needsEscape, isRefused, hnewline] using h

theorem ne_return_of_needsEscape
    {c : Char}
    (h : needsEscape c = false) :
    c ≠ '\r' := by
  rintro rfl
  cases h

/-- The long form between single quotes. -/
theorem longBody_self
    {run : Nat} {cs : List Char}
    (h : ∀ c ∈ cs, needsEscape c = false)
    (hrun : longestRun '\'' run cs ≤ 2) :
    LongBody '\'' false run cs cs := by
  induction cs generalizing run with
  | nil =>
      exact .nil
  | cons c cs ih =>
      have hrest := fun d hd => h d (List.mem_cons_of_mem _ hd)
      have hc := h c List.mem_cons_self
      rw [longestRun] at hrun
      by_cases hquote : c = '\''
      · rw [if_pos hquote] at hrun
        rw [hquote]
        exact .quote (Nat.le_trans (le_longestRun _ _ _) hrun) (ih hrest hrun)
      · rw [if_neg hquote] at hrun
        refine .char [] hquote ?_ (ih hrest (Nat.le_trans (Nat.le_max_right _ _) hrun))
        intro count rest
        by_cases hline : c = '\n'
        · rw [hline]
          exact longString?_newline (by decide) count rest
        · exact longString?_plain hquote hline (ne_return_of_needsEscape hc) (by simp)
            (isRefused_of_needsEscape hc hline) count rest

end LongStrings

section Forms

theorem notMem_of_longestRun_eq_zero
    {quote : Char} {cs : List Char}
    (h : longestRun quote 0 cs = 0) :
    quote ∉ cs := by
  induction cs with
  | nil =>
      exact List.not_mem_nil
  | cons c cs ih =>
      rw [longestRun] at h
      by_cases hquote : c = quote
      · rw [if_pos hquote] at h
        exact absurd (le_longestRun quote (0 + 1) cs) (by omega)
      · rw [if_neg hquote] at h
        rw [List.mem_cons, not_or]
        exact ⟨Ne.symm hquote, ih (by omega)⟩

/-- What decides on the form of a string. -/
theorem form_cases (cs : List Char) :
    (Features.of cs).form = .basic ∨ (Features.of cs).form = .longBasic ∨
      ((Features.of cs).form = .literal ∧ cs ≠ [] ∧
        ∀ c ∈ cs, c ≠ '\'' ∧ isRefused c = false) ∨
      ((Features.of cs).form = .longLiteral ∧ (∀ c ∈ cs, needsEscape c = false) ∧
        longestRun '\'' 0 cs ≤ 2) := by
  have hcontrol (h : (Features.of cs).control = false) : ∀ c ∈ cs, needsEscape c = false := by
    simpa [Features.of] using h
  unfold Features.form
  split
  · exact Or.inl rfl
  · next hbasic =>
    split
    · next hliteral =>
      simp only [Bool.and_eq_true, Bool.not_eq_true', decide_eq_true_eq] at hliteral
      obtain ⟨⟨hclean, hquotes⟩, hnewline⟩ := hliteral
      refine Or.inr (Or.inr (Or.inl ⟨rfl, ?_, ?_⟩))
      · rintro rfl
        exact hbasic rfl
      · intro c hc
        refine ⟨?_, isRefused_of_needsEscape (hcontrol hclean c hc) ?_⟩
        · rintro rfl
          exact notMem_of_longestRun_eq_zero hquotes hc
        · rintro rfl
          simp [Features.of, hc] at hnewline
    · split
      · exact Or.inr (Or.inl rfl)
      · split
        · next hlong =>
          simp only [Bool.and_eq_true, Bool.not_eq_true', decide_eq_true_eq] at hlong
          exact Or.inr (Or.inr (Or.inr ⟨rfl, hcontrol hlong.1, hlong.2⟩))
        · split
          · exact Or.inr (Or.inl rfl)
          · exact Or.inl rfl

theorem string?_basic
    {cs : List Char}
    (h : ∀ after, cs ≠ '"' :: '"' :: after) :
    string? ('"' :: cs) =
      (basicString? (cs.length + 2) cs).map fun read => (String.ofList read.1, read.2) := by
  unfold string?
  split
  · next heq => exact absurd (List.cons.inj heq).2 (h _)
  · next heq => exact absurd (List.cons.inj heq).1 (by decide)
  · next heq =>
    rw [← (List.cons.inj heq).2]
    cases basicString? (cs.length + 2) cs <;> rfl
  · next heq => exact absurd (List.cons.inj heq).1 (by decide)
  · next hbasic _ => exact absurd rfl (hbasic cs)

theorem string?_literal
    {cs : List Char}
    (h : ∀ after, cs ≠ '\'' :: '\'' :: after) :
    string? ('\'' :: cs) =
      (literalString? cs).map fun read => (String.ofList read.1, read.2) := by
  unfold string?
  split
  · next heq => exact absurd (List.cons.inj heq).1 (by decide)
  · next heq => exact absurd (List.cons.inj heq).2 (h _)
  · next heq => exact absurd (List.cons.inj heq).1 (by decide)
  · next heq =>
    rw [← (List.cons.inj heq).2]
    cases literalString? cs <;> rfl
  · next hliteral => exact absurd rfl (hliteral cs)

theorem length_le_escapeFrom (long : Bool) (allowed run : Nat) (cs : List Char) :
    cs.length ≤ (escapeFrom long allowed run cs).length := by
  induction cs generalizing run with
  | nil =>
      exact Nat.le_refl _
  | cons c cs ih =>
      have hnext := ih (run + 1)
      have hrest := ih 0
      rw [escapeFrom, List.length_cons]
      by_cases hquote : c = '"'
      · rw [if_pos hquote]
        split <;>
          · simp only [List.length_cons]
            omega
      · rw [if_neg hquote, List.length_append]
        rcases escapeChar_cases long c with ⟨hchar, -⟩ | ⟨letter, tail, hchar, -⟩ <;>
          · simp only [hchar, List.length_cons, List.length_nil]
            omega

/-- An escape or a plain character does not look like a quote. -/
theorem escapeFrom_ne_quote
    {cs : List Char}
    (hcs : cs ≠ [])
    (rest after : List Char) :
    escapeFrom false 0 0 cs ++ rest ≠ '"' :: after := by
  obtain ⟨c, cs, rfl⟩ := List.exists_cons_of_ne_nil hcs
  have hbackslash : '\\' ≠ '"' := by decide
  intro heq
  rw [escapeFrom] at heq
  by_cases hquote : c = '"'
  · rw [if_pos hquote, if_neg (Nat.lt_irrefl 0)] at heq
    exact hbackslash (List.cons.inj heq).1
  · rw [if_neg hquote] at heq
    rcases escapeChar_cases false c with ⟨hchar, -⟩ | ⟨letter, tail, hchar, -⟩
    · rw [hchar] at heq
      exact hquote (List.cons.inj heq).1
    · rw [hchar] at heq
      exact hbackslash (List.cons.inj heq).1

/-- A string in double quotes is read back. -/
theorem string?_escapeFrom (cs rest : List Char) :
    string? ('"' :: (escapeFrom false 0 0 cs ++ '"' :: '\n' :: rest)) =
      some (String.ofList cs, '\n' :: rest) := by
  have hshort (after : List Char) :
      escapeFrom false 0 0 cs ++ '"' :: '\n' :: rest ≠ '"' :: '"' :: after := by
    by_cases hempty : cs = []
    · rw [hempty]
      simp [escapeFrom]
    · exact escapeFrom_ne_quote hempty _ _
  have hlength := length_le_escapeFrom false 0 0 cs
  have hcount : cs.length < (escapeFrom false 0 0 cs ++ '"' :: '\n' :: rest).length + 2 := by
    rw [List.length_append]
    omega
  rw [string?_basic hshort, basicString?_escapeFrom hcount, Option.map_some]

/-- A string in three double quotes is read back. -/
theorem string?_longEscapeFrom (cs rest : List Char) :
    string? ('"' :: '"' :: '"' :: '\n' ::
        (escapeFrom true 2 0 cs ++ '"' :: '"' :: '"' :: '\n' :: rest)) =
      some (String.ofList cs, '\n' :: rest) := by
  have hlength := length_le_escapeFrom true 2 0 cs
  have hread (count : Nat) (hcount : cs.length < count) :
      longString? '"' true count
          (escapeFrom true 2 0 cs ++ '"' :: '"' :: '"' :: '\n' :: rest) =
        some (cs, '\n' :: rest) :=
    longString?_of_longBody (longBody_escapeFrom 0 _) (Nat.zero_le 2) hcount (by simp)
  rw [string?]
  simp only [dropLineEnd, afterLineEnd?, Option.getD_some]
  rw [hread _ (by simp only [List.length_cons, List.length_append]; omega)]
  rfl

/-- A string in single quotes is read back. -/
theorem string?_self
    {cs : List Char}
    (hne : cs ≠ [])
    (hplain : ∀ c ∈ cs, c ≠ '\'' ∧ isRefused c = false)
    (rest : List Char) :
    string? ('\'' :: (cs ++ '\'' :: '\n' :: rest)) = some (String.ofList cs, '\n' :: rest) := by
  have hshort (after : List Char) : cs ++ '\'' :: '\n' :: rest ≠ '\'' :: '\'' :: after := by
    obtain ⟨c, cs, rfl⟩ := List.exists_cons_of_ne_nil hne
    exact fun heq => (hplain c List.mem_cons_self).1 (List.cons.inj heq).1
  rw [string?_literal hshort, literalString?_append hplain, Option.map_some]

/-- A string in three single quotes is read back. -/
theorem string?_longSelf
    {cs : List Char}
    (hplain : ∀ c ∈ cs, needsEscape c = false)
    (hrun : longestRun '\'' 0 cs ≤ 2)
    (rest : List Char) :
    string? ('\'' :: '\'' :: '\'' :: '\n' :: (cs ++ '\'' :: '\'' :: '\'' :: '\n' :: rest)) =
      some (String.ofList cs, '\n' :: rest) := by
  have hread (count : Nat) (hcount : cs.length < count) :
      longString? '\'' false count (cs ++ '\'' :: '\'' :: '\'' :: '\n' :: rest) =
        some (cs, '\n' :: rest) :=
    longString?_of_longBody (longBody_self hplain hrun) (Nat.zero_le 2) hcount (by simp)
  rw [string?]
  simp only [dropLineEnd, afterLineEnd?, Option.getD_some]
  rw [hread _ (by simp only [List.length_cons, List.length_append]; omega)]
  rfl

/-- **A string is read back** in the form in which it is written, if the line ends behind it. -/
theorem string?_writeString (text : String) (rest : List Char) :
    string? ((writeString text).toList ++ '\n' :: rest) = some (text, '\n' :: rest) := by
  rcases form_cases text.toList with hform | hform | ⟨hform, hne, hplain⟩ | ⟨hform, hplain, hrun⟩
  · have hread := string?_escapeFrom text.toList rest
    rw [writeString, hform]
    simpa using hread
  · have hread := string?_longEscapeFrom text.toList rest
    rw [writeString, hform]
    simpa using hread
  · have hread := string?_self hne hplain rest
    rw [writeString, hform]
    simpa [toString] using hread
  · have hread := string?_longSelf hplain hrun rest
    rw [writeString, hform]
    simpa [toString] using hread

theorem exists_quote_cons_writeString (text : String) :
    ∃ quote tail, (writeString text).toList = quote :: tail ∧ (quote = '"' ∨ quote = '\'') := by
  rw [writeString]
  cases (Features.of text.toList).form with
  | basic => exact ⟨'"', _, String.toList_ofList, Or.inl rfl⟩
  | literal => exact ⟨'\'', text.toList ++ ['\''], by simp [toString], Or.inr rfl⟩
  | longBasic =>
      exact ⟨'"', '"' :: '"' :: '\n' :: (escapeFrom true 2 0 text.toList ++ ['"', '"', '"']),
        by simp, Or.inl rfl⟩
  | longLiteral =>
      exact ⟨'\'', '\'' :: '\'' :: '\n' :: (text.toList ++ ['\'', '\'', '\'']), by simp [toString],
        Or.inr rfl⟩

/-- **A string is read back as a value.** -/
theorem value?_writeString (depth calls : Nat) (text : String) (rest : List Char) :
    value? depth (calls + 1) ((writeString text).toList ++ '\n' :: rest) =
      some (.string text, '\n' :: rest) := by
  have hread := string?_writeString text rest
  obtain ⟨quote, tail, hwritten, hquote⟩ := exists_quote_cons_writeString text
  rw [hwritten, List.cons_append] at hread ⊢
  rcases hquote with rfl | rfl <;>
    · unfold value?
      simp [hread]

end Forms

end Toml
end EpaperLayout
