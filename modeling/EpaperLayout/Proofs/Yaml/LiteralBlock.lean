import EpaperLayout.Proofs.Yaml.ScalarTexts

/-!
# Literal blocks are read line by line

**Input.** A literal block that drops its last line break and goes on to the end
of the text.  No line of it is empty, and the first begins with no blank.

**Results.**
* `readBlockLines_literalLines`: the lines are read as they are behind their
  indentation.
* `readBlockScalar_literalLines`: the indentation of the first line is the one of
  the block.
-/

namespace EpaperLayout
namespace Yaml

section BlankLines

theorem afterIndentation_replicate
    {indent : Option Nat} {mark : Mark} {count : Nat}
    (hindent : ∀ column < mark.column + count, inIndentation indent column = true)
    {c : Char}
    (hbreak : isBreak c = false)
    (hc : c = ' ' → inIndentation indent (mark.column + count) = false)
    (rest : List Char) :
    afterIndentation indent (placesFrom mark (List.replicate count ' ' ++ c :: rest)) =
      placesFrom (mark.forward count) (c :: rest) := by
  induction count generalizing mark with
  | zero =>
      have hstays : ¬ (decide (c = ' ') && inIndentation indent mark.column) = true := by
        rw [Bool.and_eq_true, decide_eq_true_eq]
        rintro ⟨heq, hin⟩
        exact Bool.false_ne_true ((hc heq).symm.trans hin)
      rw [List.replicate_zero, List.nil_append, afterIndentation, placesFrom_cons hbreak,
        List.dropWhile_cons_of_neg]
      · exact (placesFrom_cons hbreak mark rest).symm
      · exact hstays
  | succ count ih =>
      have hgoes : (decide (' ' = ' ') && inIndentation indent mark.column) = true := by
        rw [hindent mark.column (by omega)]
        rfl
      have hcolumn : (mark.forward 1).column + count = mark.column + (count + 1) := by
        rw [Mark.forward]
        exact Nat.add_right_comm _ _ _
      have hnext := ih (hcolumn ▸ hindent) (hcolumn ▸ hc)
      rw [List.replicate_succ, List.cons_append, afterIndentation, placesFrom_cons (by decide),
        List.dropWhile_cons_of_pos, ← afterIndentation, hnext, Mark.forward_forward,
        Nat.add_comm 1]
      exact hgoes

/-- The indentation of a line with text is passed over. -/
theorem readBlankLines_replicate
    (indent : Option Nat)
    (mark : Mark)
    (count : Nat)
    (hindent : ∀ column < mark.column + count, inIndentation indent column = true)
    {c : Char}
    (hbreak : isBreak c = false)
    (hc : isBlank c = true → inIndentation indent (mark.column + count) = false)
    (stop : Mark)
    (rest : List Char) :
    readBlankLines stop indent [] 0 (placesFrom mark (List.replicate count ' ' ++ c :: rest)) =
      .ok { breaks := [], widest := mark.column + count,
            rest := placesFrom (mark.forward count) (c :: rest) } := by
  have hafter := afterIndentation_replicate hindent hbreak
    (fun heq => hc (by rw [heq]; rfl)) rest
  have hcolumn : (here stop (placesFrom (mark.forward count) (c :: rest))).column =
      mark.column + count := by
    rw [placesFrom_cons hbreak]
    rfl
  have htab : ¬ (startsWith '\t' (placesFrom (mark.forward count) (c :: rest)) &&
      inIndentation indent (mark.column + count)) = true := by
    rw [placesFrom_cons hbreak, startsWith, Bool.and_eq_true, beq_iff_eq]
    rintro ⟨heq, hin⟩
    obtain rfl : c = '\t' := Option.some_inj.mp heq
    exact Bool.false_ne_true ((hc (by decide)).symm.trans hin)
  rw [readBlankLines.eq_def, hafter]
  simp only [hcolumn]
  rw [if_neg htab]
  split
  · next heq =>
    rw [placesFrom_cons hbreak] at heq
    cases heq
  · next place following heq =>
    have hplace : isBreak place.char = false := by
      rw [placesFrom_cons hbreak] at heq
      cases heq
      exact hbreak
    rw [hplace, if_neg Bool.false_ne_true, Nat.zero_max, heq]

end BlankLines

section Lines

/-- Lines behind their indentation, each with its line feed. -/
def literalLines (indent : Nat) (lines : List (List Char)) : List Char :=
  lines.flatMap fun line => List.replicate indent ' ' ++ (line ++ ['\n'])

/-- A line with text. -/
structure IsLine (line : List Char) : Prop where
  nonempty : line ≠ []
  unbroken : ∀ c ∈ line, isBreak c = false

/-- The rest of a line is read up to its line feed. -/
theorem span_line
    {line : List Char}
    (h : ∀ c ∈ line, isBreak c = false)
    (mark : Mark)
    (rest : List Char) :
    span (fun c => !isBreak c) (placesFrom mark (line ++ '\n' :: rest)) = line ∧
      afterSpan (fun c => !isBreak c) (placesFrom mark (line ++ '\n' :: rest)) =
        placesFrom (mark.forward line.length) ('\n' :: rest) := by
  obtain ⟨places, hchars, hplaces⟩ := exists_places_line _ h mark ('\n' :: rest)
  have hall : ∀ place ∈ places, (!isBreak place.char) = true := by
    intro place hplace
    rw [h place.char (by rw [← hchars]; exact List.mem_map_of_mem hplace)]
    rfl
  rw [hplaces, placesFrom_newline]
  constructor
  · rw [span, List.takeWhile_append_of_pos hall, List.takeWhile_cons_of_neg Bool.false_ne_true,
      List.append_nil, hchars]
  · rw [afterSpan, List.dropWhile_append_of_pos hall,
      List.dropWhile_cons_of_neg Bool.false_ne_true]

/-- One line of a literal block is added to those before it. -/
theorem readBlockLines_line
    {indent : Nat} {c : Char} {cs : List Char}
    (hline : IsLine (c :: cs))
    {mark : Mark}
    (hcolumn : mark.column = indent)
    {stop : Mark} {rest : List Char} {blanks : BlankLines}
    (hblanks : readBlankLines stop (some indent) [] 0
      (placesFrom (((mark.forward 1).forward cs.length).nextLine 1) rest) = .ok blanks)
    (before : BlockLines) :
    readBlockLines stop false indent before (placesFrom mark (c :: cs ++ '\n' :: rest)) =
      readBlockLines stop false indent
        { text := before.text ++ before.ending ++ before.trailing ++ c :: cs
          ending := ['\n']
          trailing := blanks.breaks
          startsBlank := isBlank c }
        blanks.rest := by
  have hc := hline.unbroken c List.mem_cons_self
  obtain ⟨hspan, hafter⟩ := span_line
    (fun d hd => hline.unbroken d (List.mem_cons_of_mem c hd)) (mark.forward 1) rest
  rw [List.cons_append, placesFrom_cons hc, readBlockLines, if_neg (not_not_intro hcolumn)]
  simp only [hspan, BlockLines.joined, Bool.false_and, Bool.false_eq_true, if_false]
  split
  · next heq =>
    rw [hafter, placesFrom_newline] at heq
    cases heq
  · next ending following heq =>
    rw [hafter, placesFrom_newline] at heq
    cases heq
    split
    · next fault heq =>
      rw [hblanks] at heq
      cases heq
    · next read heq =>
      rw [hblanks] at heq
      cases heq
      rfl

/-- The lines of a literal block are joined by line feeds. -/
theorem readBlockLines_literalLines
    {indent : Nat} {line : List Char} {others : List (List Char)}
    (hline : IsLine line)
    (hothers : ∀ other ∈ others, IsLine other)
    (stop : Mark)
    (before : BlockLines)
    (mark : Mark)
    (hcolumn : mark.column = indent) :
    ∃ lines : BlockLines,
      lines.text = before.text ++ before.ending ++ before.trailing ++
        ['\n'].intercalate (line :: others) ∧
      readBlockLines stop false indent before
          (placesFrom mark (line ++ '\n' :: literalLines indent others)) = .ok (lines, []) := by
  induction others generalizing line before mark with
  | nil =>
      obtain ⟨c, cs, rfl⟩ := List.exists_cons_of_ne_nil hline.nonempty
      have hblanks : readBlankLines stop (some indent) [] 0 (placesFrom
          (((mark.forward 1).forward cs.length).nextLine 1) (literalLines indent [])) =
            .ok { breaks := [], widest := max 0 stop.column, rest := [] } := by
        rw [readBlankLines.eq_def]
        rfl
      rw [readBlockLines_line hline hcolumn hblanks, readBlockLines, List.intercalate_singleton]
      exact ⟨_, rfl, rfl⟩
  | cons other others ih =>
      obtain ⟨c, cs, rfl⟩ := List.exists_cons_of_ne_nil hline.nonempty
      have hother := hothers other List.mem_cons_self
      obtain ⟨d, ds, rfl⟩ := List.exists_cons_of_ne_nil hother.nonempty
      have hblanks : readBlankLines stop (some indent) [] 0 (placesFrom
          (((mark.forward 1).forward cs.length).nextLine 1)
          (literalLines indent ((d :: ds) :: others))) =
            .ok { breaks := [], widest := 0 + indent,
                  rest := placesFrom
                    ((((mark.forward 1).forward cs.length).nextLine 1).forward indent)
                    (d :: (ds ++ '\n' :: literalLines indent others)) } := by
        have hnext := readBlankLines_replicate (some indent)
          (((mark.forward 1).forward cs.length).nextLine 1) indent
          (fun column hcolumn => decide_eq_true (by rwa [Mark.nextLine, Nat.zero_add] at hcolumn))
          (hother.unbroken d List.mem_cons_self)
          (fun _ => decide_eq_false (by rw [Mark.nextLine]; omega)) stop
          (ds ++ '\n' :: literalLines indent others)
        rw [literalLines, List.flatMap_cons, ← literalLines, List.append_assoc, List.append_assoc]
        exact hnext
      obtain ⟨lines, htext, hread⟩ := ih hother
        (fun more hmore => hothers more (List.mem_cons_of_mem _ hmore))
        { text := before.text ++ before.ending ++ before.trailing ++ c :: cs
          ending := ['\n']
          trailing := []
          startsBlank := isBlank c }
        ((((mark.forward 1).forward cs.length).nextLine 1).forward indent)
        (by rw [Mark.forward, Mark.nextLine, Nat.zero_add])
      refine ⟨lines, ?_, ?_⟩
      · rw [htext, List.intercalate_cons_cons]
        simp only [List.append_assoc, List.nil_append]
      · rw [readBlockLines_line hline hcolumn hblanks]
        exact hread

end Lines

section Scalar

/-- The header of a block that drops its last line break. -/
theorem read_strip
    (stop mark : Mark)
    (rest : List Char) :
    BlockHeader.read stop (placesFrom mark ('-' :: '\n' :: rest)) =
      .ok ({ chomping := .strip }, placesFrom (mark.forward 1) ('\n' :: rest)) := by
  rw [placesFrom_cons (by decide), placesFrom_newline]
  rfl

/-- **A literal block is read as its lines without the indentation of the first.** -/
theorem readBlockScalar_literalLines
    {indent : Nat} {c : Char} {cs : List Char} {others : List (List Char)}
    (hfirst : IsLine (c :: cs))
    (hc : isBlank c = false)
    (hothers : ∀ other ∈ others, IsLine other)
    {parent : Int}
    (hparent : parent < indent)
    (hindent : 0 < indent)
    (stop mark : Mark) :
    readBlockScalar stop false parent
        (placesFrom mark ('-' :: '\n' :: literalLines indent ((c :: cs) :: others))) =
      .ok (['\n'].intercalate ((c :: cs) :: others), []) := by
  have hblanks : readBlankLines stop none [] 0 (placesFrom ((mark.forward 1).nextLine 1)
      (literalLines indent ((c :: cs) :: others))) =
        .ok { breaks := [], widest := 0 + indent,
              rest := placesFrom (((mark.forward 1).nextLine 1).forward indent)
                (c :: (cs ++ '\n' :: literalLines indent others)) } := by
    have hnext := readBlankLines_replicate none ((mark.forward 1).nextLine 1) indent (fun _ _ => rfl)
      (hfirst.unbroken c List.mem_cons_self)
      (fun hblank => absurd (hc.symm.trans hblank) Bool.false_ne_true) stop
      (cs ++ '\n' :: literalLines indent others)
    rw [literalLines, List.flatMap_cons, ← literalLines, List.append_assoc, List.append_assoc]
    exact hnext
  obtain ⟨lines, htext, hlines⟩ := readBlockLines_literalLines hfirst hothers stop {}
    (((mark.forward 1).nextLine 1).forward indent)
    (by rw [Mark.forward, Mark.nextLine, Nat.zero_add])
  have hwidest : max (max (0 + indent) (parent + 1).toNat) 1 = indent := by
    omega
  -- the line break behind the header is kept by the search for a comment
  have hskip : ∀ places, skipComment ({ char := '\n', mark := mark.forward 1 } :: places) =
      { char := '\n', mark := mark.forward 1 } :: places := fun _ => rfl
  have hends : ∀ places, endsLine ({ char := '\n', mark := mark.forward 1 } :: places) = true :=
    fun _ => rfl
  rw [List.cons_append] at hlines
  rw [readBlockScalar, read_strip, placesFrom_newline]
  simp only [bind, Except.bind, hskip, hends, Bool.not_true, Bool.false_eq_true, if_false,
    List.drop_succ_cons, List.drop_zero, Option.map_none, Option.getD_none, hblanks, hwidest,
    hlines]
  rw [← List.nil_append (['\n'].intercalate _)]
  exact congrArg (fun text => Except.ok (text, [])) htext

end Scalar

end Yaml
end EpaperLayout
