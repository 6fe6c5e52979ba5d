import EpaperLayout.Proofs.Yaml.LiteralBlock
import Mathlib.Data.List.TakeWhile

/-!
# The scanner in block style

**Input.** A scanner outside brackets that is about to take a token, at a known
column and before a known text.

**Results.** Each entry of a block collection adds its tokens and leaves the
scanner at the next entry:

* `Leads.key`: a key with its colon;
* `Leads.value`, `Leads.quoted`: a plain and a quoted scalar at the end of a line;
* `Leads.entry`: a key with a plain scalar behind it;
* `Leads.dash`: the dash of an item;
* `Scanner.At.exists_scan_literal`: a literal block that goes on to the end of the text.
-/

namespace EpaperLayout
namespace Yaml

section Runs

/-- Steps of the scanner that end before the text does. -/
inductive Reaches (stop : Mark) : Nat → Scanner → Scanner → Prop
  | refl (s : Scanner) : Reaches stop 0 s s
  | step {s next t : Scanner} {steps : Nat}
      (hstep : s.step stop = .ok next)
      (hrunning : next.finished = false)
      (hrest : Reaches stop steps next t) :
      Reaches stop (steps + 1) s t

theorem Reaches.trans
    {stop : Mark} {first second : Nat} {s t u : Scanner}
    (hfirst : Reaches stop first s t)
    (hsecond : Reaches stop second t u) :
    Reaches stop (first + second) s u := by
  induction hfirst with
  | refl s =>
      rw [Nat.zero_add]
      exact hsecond
  | step hstep hrunning _ ih =>
      rw [Nat.add_right_comm]
      exact .step hstep hrunning (ih hsecond)

/-- The tokens are those that the scanner takes from where it is. -/
theorem Reaches.scan_eq
    {stop : Mark} {steps : Nat} {s t : Scanner}
    (h : Reaches stop steps s t)
    (more : Nat) :
    TokenStream.scan stop (steps + more) s = TokenStream.scan stop more t := by
  induction h with
  | refl s =>
      rw [Nat.zero_add]
  | step hstep hrunning _ ih =>
      rw [Nat.add_right_comm, TokenStream.scan, hstep]
      simp only [hrunning, Bool.false_eq_true, if_false]
      exact ih

end Runs

section Positions

/-- Where a scanner is outside brackets. -/
structure Position where
  /-- The tokens taken. -/
  kinds : List TokenKind
  /-- The columns of the open blocks, the innermost first. -/
  indents : List Nat
  /-- Whether a key can begin at the next token. -/
  keyAllowed : Bool
  /-- The column of the next token. -/
  column : Nat
  /-- The text from the next token on. -/
  chars : List Char

/-- A scanner outside brackets with its tokens and its open blocks. -/
structure Scanner.Outside (s : Scanner) (kinds : List TokenKind) (indents : List Nat) : Prop where
  noBrackets : s.outerKeys = []
  running : s.finished = false
  taken : s.tokens.toList.map Token.kind = kinds
  blocks : s.indents = indents

/-- A scanner that has no key in mind. -/
structure Scanner.Idle (s : Scanner) (kinds : List TokenKind) (indents : List Nat) : Prop
    extends s.Outside kinds indents where
  noKey : s.key = none

/-- A scanner is at a position when filler alone separates it from there. -/
structure Scanner.At (s : Scanner) (p : Position) : Prop where
  idle : s.Idle p.kinds p.indents
  place : ∃ mark : Mark, mark.column = p.column ∧
    skipFiller false s.keyAllowed false s.rest = (p.keyAllowed, placesFrom mark p.chars)

/-- Every scanner at the first position gets to the second. -/
def Leads (stop : Mark) (steps : Nat) (p q : Position) : Prop :=
  ∀ s : Scanner, s.At p → ∃ t, Reaches stop steps s t ∧ t.At q

theorem Leads.refl (stop : Mark) (p : Position) : Leads stop 0 p p :=
  fun s hs => ⟨s, .refl s, hs⟩

theorem Leads.trans
    {stop : Mark} {first second : Nat} {p q r : Position}
    (hfirst : Leads stop first p q)
    (hsecond : Leads stop second q r) :
    Leads stop (first + second) p r := by
  intro s hs
  obtain ⟨t, hst, ht⟩ := hfirst s hs
  obtain ⟨u, htu, hu⟩ := hsecond t ht
  exact ⟨u, hst.trans htu, hu⟩

/-- The ends of the blocks that a token at the column closes. -/
def blockEnds (column : Int) (indents : List Nat) : List TokenKind :=
  List.replicate (indents.takeWhile fun (indent : Nat) => column < indent).length .blockEnd

/-- The blocks that a token at the column leaves open. -/
def openAt (column : Int) (indents : List Nat) : List Nat :=
  indents.drop (indents.takeWhile fun (indent : Nat) => column < indent).length

/-- The token that opens a collection at the column, if it is a new one. -/
def opening (kind : TokenKind) (column : Nat) : List Nat → List TokenKind
  | [] => [kind]
  | indent :: _ => if column ≤ indent then [] else [kind]

/-- The open blocks with a collection at the column. -/
def withBlock (column : Nat) : List Nat → List Nat
  | [] => [column]
  | indent :: indents =>
    if column ≤ indent then indent :: indents else column :: indent :: indents

end Positions

section Tokens

theorem map_kind_insertIdx (tokens : Array Token) (index : Nat) (token : Token) :
    (tokens.insertIdxIfInBounds index token).toList.map Token.kind =
      (tokens.toList.map Token.kind).insertIdx index token.kind := by
  obtain ⟨tokens⟩ := tokens
  rw [List.insertIdxIfInBounds_toArray, List.map_insertIdx]

theorem insertIdx_append_length (first last : List TokenKind) (kind : TokenKind) :
    (first ++ last).insertIdx first.length kind = first ++ kind :: last := by
  induction first with
  | nil =>
      rfl
  | cons other first ih =>
      rw [List.cons_append, List.length_cons, List.insertIdx_succ_cons, ih, List.cons_append]

end Tokens

section Blocks

variable {s : Scanner} {kinds : List TokenKind} {indents : List Nat}

theorem Scanner.Outside.flow
    (h : s.Outside kinds indents) :
    s.flow = false := by
  rw [Scanner.flow, h.noBrackets]
  rfl

/-- A token at the end of those taken. -/
theorem Scanner.Outside.emit
    (h : s.Outside kinds indents)
    (stop : Mark)
    (kind : TokenKind)
    (rest : List Place) :
    (s.emit stop kind rest).Outside (kinds ++ [kind]) indents where
  noBrackets := h.noBrackets
  running := h.running
  taken := by
    rw [Scanner.emit, Array.toList_push, List.map_append, h.taken]
    rfl
  blocks := h.blocks

/-- A collection opens behind some of the tokens, if its column is a new one. -/
theorem Scanner.Outside.openBlock
    {first last : List TokenKind}
    (h : s.Outside (first ++ last) indents)
    (kind : TokenKind)
    (mark : Mark) :
    (s.openBlock kind mark first.length).Outside (first ++ opening kind mark.column indents ++ last)
      (withBlock mark.column indents) := by
  rw [Scanner.openBlock, h.flow, Scanner.indent, h.blocks, Bool.false_or]
  cases indents with
  | nil =>
      have hdeep : ¬ decide ((mark.column : Int) ≤ -1) = true := by
        rw [decide_eq_true_eq]
        omega
      rw [if_neg hdeep]
      constructor
      · exact h.noBrackets
      · exact h.running
      · rw [map_kind_insertIdx, h.taken, insertIdx_append_length]
        simp [opening]
      · rfl
  | cons indent indents =>
      by_cases hle : mark.column ≤ indent
      · have hshallow : decide ((mark.column : Int) ≤ indent) = true := by
          rw [decide_eq_true_eq]
          omega
        rw [if_pos hshallow, opening, if_pos hle, withBlock, if_pos hle, List.append_nil]
        exact h
      · have hdeep : ¬ decide ((mark.column : Int) ≤ indent) = true := by
          rw [decide_eq_true_eq]
          omega
        rw [if_neg hdeep, opening, if_neg hle, withBlock, if_neg hle]
        constructor
        · exact h.noBrackets
        · exact h.running
        · rw [map_kind_insertIdx, h.taken, insertIdx_append_length]
          simp
        · rfl

theorem Scanner.Outside.openBlock_end
    (h : s.Outside kinds indents)
    (kind : TokenKind)
    (mark : Mark) :
    (s.openBlock kind mark s.tokens.size).Outside (kinds ++ opening kind mark.column indents)
      (withBlock mark.column indents) := by
  have hsize : s.tokens.size = kinds.length := by
    rw [← h.taken, List.length_map, Array.length_toList]
  rw [← List.append_nil kinds] at h
  have hopened := h.openBlock kind mark
  rw [List.append_nil] at hopened
  rw [hsize]
  exact hopened

theorem Scanner.openBlock_frame (s : Scanner) (kind : TokenKind) (mark : Mark) (index : Nat) :
    (s.openBlock kind mark index).key = s.key ∧
      (s.openBlock kind mark index).rest = s.rest ∧
      (s.openBlock kind mark index).keyAllowed = s.keyAllowed := by
  rw [Scanner.openBlock]
  split <;> exact ⟨rfl, rfl, rfl⟩

/-- Blocks deeper than the column are closed. -/
theorem Scanner.Outside.closeBlocks
    (h : s.Outside kinds indents)
    (mark : Mark)
    (column : Int) :
    (s.closeBlocks mark column).Outside (kinds ++ blockEnds column indents)
      (openAt column indents) where
  noBrackets := by
    rw [Scanner.closeBlocks, h.flow]
    exact h.noBrackets
  running := by
    rw [Scanner.closeBlocks, h.flow]
    exact h.running
  taken := by
    rw [Scanner.closeBlocks, h.flow]
    simp [h.taken, h.blocks, blockEnds]
  blocks := by
    rw [Scanner.closeBlocks, h.flow]
    simp [h.blocks, openAt]

theorem Scanner.closeBlocks_frame (s : Scanner) (mark : Mark) (column : Int) :
    (s.closeBlocks mark column).key = s.key ∧
      (s.closeBlocks mark column).rest = s.rest ∧
      (s.closeBlocks mark column).keyAllowed = s.keyAllowed := by
  rw [Scanner.closeBlocks]
  split <;> exact ⟨rfl, rfl, rfl⟩

theorem Scanner.Idle.dropStaleKeys
    (h : s.Idle kinds indents)
    (stop : Mark) :
    s.dropStaleKeys stop = .ok s := by
  have hkey := h.noKey
  have hbrackets := h.noBrackets
  cases s
  subst hkey
  subst hbrackets
  rfl

theorem Scanner.Idle.dropKey
    (h : s.Idle kinds indents)
    (stop : Mark) :
    s.dropKey stop = .ok s := by
  have hkey := h.noKey
  cases s
  subst hkey
  rfl

end Blocks

section Choice

variable {s : Scanner} {stop : Mark} {after : List Place}

theorem isIndicator_of_isIdentifierChar
    {c : Char}
    (h : Text.isIdentifierChar c = true) :
    Scanner.isIndicator c = false := by
  rw [Bool.eq_false_iff]
  intro hindicator
  rw [Scanner.isIndicator, isFlowIndicator, Bool.or_eq_true, List.contains_iff_mem,
    List.contains_iff_mem] at hindicator
  have hall : ∀ d ∈ [',', '[', ']', '{', '}'] ++ ['-', '?', ':', '#', '&', '*', '!', '|', '>',
      '\'', '"', '%', '@', '\x60'], Text.isIdentifierChar d = false := by
    decide
  exact Bool.false_ne_true ((hall c (List.mem_append.mpr hindicator)).symm.trans h)

theorem Scanner.takeToken_dash
    (hmark : startsDocumentMark s.rest = false)
    (hafter : endsWord after = true) :
    s.takeToken stop '-' after = s.takeDash stop := by
  simp [Scanner.takeToken, hmark, hafter]

theorem Scanner.takeToken_colon
    (hmark : startsDocumentMark s.rest = false)
    (hafter : endsWord after = true) :
    s.takeToken stop ':' after = s.takeColon stop := by
  simp [Scanner.takeToken, hmark, hafter]

theorem Scanner.takeToken_quote
    (hmark : startsDocumentMark s.rest = false) :
    s.takeToken stop '"' after = s.takeQuoted stop '"' := by
  simp [Scanner.takeToken, hmark]

theorem Scanner.takeToken_bar
    (hmark : startsDocumentMark s.rest = false)
    (hflow : s.flow = false) :
    s.takeToken stop '|' after = s.takeBlockScalar stop false := by
  simp [Scanner.takeToken, hmark, hflow]

theorem Scanner.takeToken_word
    {c : Char}
    (hmark : startsDocumentMark s.rest = false)
    (hc : Text.isIdentifierChar c = true) :
    s.takeToken stop c after = s.takePlain stop := by
  have hne : ∀ d : Char, Text.isIdentifierChar d = false → c ≠ d := by
    rintro d hd rfl
    exact Bool.false_ne_true (hd.symm.trans hc)
  have hword : isWordChar c = true := by rw [isWordChar, hc, Bool.true_or]
  have hplain : Scanner.startsPlain s.flow c after = true := by
    rw [Scanner.startsPlain, isGap_of_isWordChar hword, isIndicator_of_isIdentifierChar hc]
    rfl
  simp [Scanner.takeToken, hmark, hplain, hne _ (by decide : Text.isIdentifierChar '%' = false),
    hne '[' (by decide), hne ']' (by decide), hne '{' (by decide), hne '}' (by decide),
    hne ',' (by decide), hne '-' (by decide), hne '?' (by decide), hne ':' (by decide),
    hne '*' (by decide), hne '&' (by decide), hne '!' (by decide), hne '|' (by decide),
    hne '>' (by decide), hne '\'' (by decide), hne '"' (by decide)]

end Choice

section Steps

variable {s : Scanner} {kinds : List TokenKind} {indents : List Nat} {keyAllowed : Bool}
variable {column : Nat} {c : Char} {rest : List Char}

/-- A step from a position takes a token where the blocks deeper than it are closed. -/
theorem Scanner.At.exists_step_eq
    (h : s.At { kinds, indents, keyAllowed, column, chars := c :: rest })
    (hc : isBreak c = false)
    (stop : Mark) :
    ∃ (ready : Scanner) (mark : Mark), mark.column = column ∧
      ready.Idle (kinds ++ blockEnds column indents) (openAt column indents) ∧
      ready.keyAllowed = keyAllowed ∧ ready.rest = placesFrom mark (c :: rest) ∧
      s.step stop = (ready.takeToken stop c (placesFrom (mark.forward 1) rest)).bind
        fun taken => taken.dropStaleKeys stop := by
  obtain ⟨mark, hcolumn, hskip⟩ := h.place
  change mark.column = column at hcolumn
  change skipFiller _ _ _ _ = (keyAllowed, placesFrom mark (c :: rest)) at hskip
  have hfresh : ({ s with keyAllowed, rest := placesFrom mark (c :: rest) } :
      Scanner).Idle kinds indents :=
    { noBrackets := h.idle.noBrackets, running := h.idle.running, taken := h.idle.taken,
      blocks := h.idle.blocks, noKey := h.idle.noKey }
  obtain ⟨hkey, hrest, hallowed⟩ := Scanner.closeBlocks_frame
    { s with keyAllowed, rest := placesFrom mark (c :: rest) } mark mark.column
  refine ⟨Scanner.closeBlocks { s with keyAllowed, rest := placesFrom mark (c :: rest) } mark
    mark.column, mark, hcolumn, ⟨?_, ?_⟩, hallowed, hrest, ?_⟩
  · rw [← hcolumn]
    exact hfresh.toOutside.closeBlocks mark mark.column
  · rw [hkey]
    exact hfresh.noKey
  · rw [Scanner.step, h.idle.flow, hskip]
    change ((Scanner.dropStaleKeys _ stop).bind _) = _
    rw [hfresh.dropStaleKeys]
    rw [placesFrom_cons hc]
    rfl

/-- A step that leaves no key in mind. -/
theorem Leads.of_step
    {stop : Mark} {p q : Position}
    (h : ∀ s : Scanner, s.At p → ∃ (taken : Scanner) (mark : Mark),
      s.step stop = taken.dropStaleKeys stop ∧ taken.Idle q.kinds q.indents ∧
        mark.column = q.column ∧
        skipFiller false taken.keyAllowed false taken.rest =
          (q.keyAllowed, placesFrom mark q.chars)) :
    Leads stop 1 p q := by
  intro s hs
  obtain ⟨taken, mark, hstep, hidle, hcolumn, hskip⟩ := h s hs
  rw [hidle.dropStaleKeys] at hstep
  exact ⟨taken, .step hstep hidle.running (.refl taken), hidle, mark, hcolumn, hskip⟩

/-- **The dash of an item.** -/
theorem Leads.dash
    (kinds : List TokenKind)
    (indents : List Nat)
    (column : Nat)
    (hc : startsToken c = true)
    (stop : Mark)
    (rest : List Char) :
    Leads stop 1
      { kinds, indents, keyAllowed := true, column, chars := '-' :: ' ' :: c :: rest }
      { kinds := kinds ++ blockEnds column indents ++
          opening .blockSequenceStart column (openAt column indents) ++ [.blockEntry]
        indents := withBlock column (openAt column indents)
        keyAllowed := true
        column := column + 2
        chars := c :: rest } := by
  refine Leads.of_step ?_
  intro s hs
  obtain ⟨ready, mark, rfl, hready, hallowed, hrest, hstep⟩ :=
    hs.exists_step_eq (by decide) stop
  have hmark : startsDocumentMark ready.rest = false := by
    rw [hrest, placesFrom_cons (by decide), placesFrom_cons (by decide),
      placesFrom_cons (isBreak_of_startsToken hc)]
    simp [startsDocumentMark]
  have hafter : endsWord (placesFrom (mark.forward 1) (' ' :: c :: rest)) = true := by
    rw [placesFrom_cons (by decide)]
    rfl
  have hhere : here stop ready.rest = mark := by
    rw [hrest, placesFrom_cons (by decide)]
    rfl
  have hopened : (ready.openBlock .blockSequenceStart mark ready.tokens.size).Idle _ _ :=
    { hready.toOutside.openBlock_end .blockSequenceStart mark with
      noKey := by rw [(ready.openBlock_frame _ _ _).1]; exact hready.noKey }
  have hdash : ready.takeDash stop = .ok
      { (ready.openBlock .blockSequenceStart mark ready.tokens.size).emit stop .blockEntry
          (placesFrom (mark.forward 1) (' ' :: c :: rest)) with keyAllowed := true } := by
    have hdrop : ready.rest.drop 1 = placesFrom (mark.forward 1) (' ' :: c :: rest) := by
      rw [hrest, placesFrom_cons (by decide)]
      rfl
    rw [Scanner.takeDash, hready.flow, hallowed, hhere, hdrop]
    change ((Scanner.openBlock _ _ _ _).dropKey stop).bind _ = _
    rw [hopened.dropKey]
    rfl
  have htaken := hopened.toOutside.emit stop .blockEntry
    (placesFrom (mark.forward 1) (' ' :: c :: rest))
  rw [Scanner.takeToken_dash hmark hafter, hdash] at hstep
  refine ⟨_, (mark.forward 1).forward 1, hstep, ?_, ?_, ?_⟩
  · exact { noBrackets := htaken.noBrackets, running := htaken.running, taken := htaken.taken,
            blocks := htaken.blocks, noKey := hopened.noKey }
  · rfl
  · exact (skipFiller_blanks true 1 (mark.forward 1) (c :: rest)).trans
      (skipFiller_startsToken hc true _ rest)

theorem blockEnds_of_le
    {indent : Nat}
    (h : indent ≤ column) :
    blockEnds column (indent :: indents) = [] := by
  have hstays : ¬ decide ((column : Int) < indent) = true := by
    rw [decide_eq_true_eq]
    omega
  rw [blockEnds, List.takeWhile_cons_of_neg]
  · rfl
  · exact hstays

theorem openAt_of_le
    {indent : Nat}
    (h : indent ≤ column) :
    openAt column (indent :: indents) = indent :: indents := by
  have hstays : ¬ decide ((column : Int) < indent) = true := by
    rw [decide_eq_true_eq]
    omega
  rw [openAt, List.takeWhile_cons_of_neg]
  · rfl
  · exact hstays

theorem openAt_cons_of_lt
    {indent : Nat}
    (h : column < indent) :
    openAt column (indent :: indents) = openAt column indents := by
  have hcloses : decide ((column : Int) < indent) = true := by
    rw [decide_eq_true_eq]
    omega
  rw [openAt, List.takeWhile_cons_of_pos, List.length_cons, List.drop_succ_cons, ← openAt]
  exact hcloses

theorem Scanner.saveKey_of_not_allowed
    (h : s.keyAllowed = false)
    (stop : Mark) :
    s.saveKey stop = .ok s := by
  rw [Scanner.saveKey, h]
  rfl

/-- **A plain scalar at the end of the line of its key.** -/
theorem Leads.value
    (kinds : List TokenKind)
    (indents : List Nat)
    {word : List Char} {indent next : Nat}
    (hword : isWord word = true)
    (hdeep : indent < column)
    (hnext : next ≤ indent)
    (hc : startsToken c = true)
    (stop : Mark)
    (blankLines : Nat)
    (rest : List Char) :
    Leads stop 1
      { kinds, indents := indent :: indents, keyAllowed := false, column
        chars := word ++ (lineGap blankLines next ++ c :: rest) }
      { kinds := kinds ++ [.scalar (String.ofList word) true], indents := indent :: indents
        keyAllowed := true, column := next, chars := c :: rest } := by
  refine Leads.of_step ?_
  intro s hs
  obtain ⟨first, others, rfl, hfirst, hchars, -⟩ := exists_cons_of_isWord hword
  obtain ⟨ready, mark, rfl, hready, hallowed, hrest, hstep⟩ :=
    hs.exists_step_eq (isBreak_of_isWordChar (hchars first List.mem_cons_self)) stop
  rw [blockEnds_of_le hdeep.le, openAt_of_le hdeep.le, List.append_nil] at hready
  have hmark : startsDocumentMark ready.rest = false := by
    rw [hrest]
    exact startsDocumentMark_word hfirst mark _
  have hindent : (next : Int) < ready.indent + 1 := by
    rw [Scanner.indent, hready.blocks]
    change (next : Int) < (indent : Int) + 1
    omega
  obtain ⟨behind, hbehind, hread⟩ := readPlain_value hword stop mark blankLines hindent
    hc rest
  have hplain : ready.takePlain stop = .ok
      { ready.emit stop (.scalar (String.ofList (first :: others)) true)
          (placesFrom behind (c :: rest)) with keyAllowed := true } := by
    rw [Scanner.takePlain, Scanner.saveKey_of_not_allowed hallowed, hready.flow, hrest]
    change (readPlain stop false _ (placesFrom mark
      (first :: others ++ (lineGap blankLines next ++ c :: rest)))).bind _ = _
    rw [hread]
    rfl
  have htaken := hready.toOutside.emit stop (.scalar (String.ofList (first :: others)) true)
    (placesFrom behind (c :: rest))
  rw [Scanner.takeToken_word hmark hfirst, hplain] at hstep
  refine ⟨_, behind, hstep, ?_, hbehind, skipFiller_startsToken hc true behind rest⟩
  exact { noBrackets := htaken.noBrackets, running := htaken.running, taken := htaken.taken,
          blocks := htaken.blocks, noKey := hready.noKey }

/-- **A scalar in double quotes at the end of the line of its key.** -/
theorem Leads.quoted
    (kinds : List TokenKind)
    (indents : List Nat)
    {word : List Char} {indent : Nat}
    (hword : ∀ d ∈ word, Text.isIdentifierChar d = true)
    (hdeep : indent < column)
    (hc : startsToken c = true)
    (stop : Mark)
    (blankLines next : Nat)
    (rest : List Char) :
    Leads stop 1
      { kinds, indents := indent :: indents, keyAllowed := false, column
        chars := '"' :: (word ++ '"' :: (lineGap blankLines next ++ c :: rest)) }
      { kinds := kinds ++ [.scalar (String.ofList word) false], indents := indent :: indents
        keyAllowed := true, column := next, chars := c :: rest } := by
  refine Leads.of_step ?_
  intro s hs
  obtain ⟨ready, mark, rfl, hready, hallowed, hrest, hstep⟩ :=
    hs.exists_step_eq (by decide) stop
  rw [blockEnds_of_le hdeep.le, openAt_of_le hdeep.le, List.append_nil] at hready
  have hmark : startsDocumentMark ready.rest = false := by
    rw [hrest]
    refine startsDocumentMark_eq_false ?_
    intro d hd
    rw [placesFrom_cons (by decide)] at hd
    obtain rfl : '"' = d := Option.some_inj.mp hd
    decide
  have hdrop : ready.rest.drop 1 = placesFrom (mark.forward 1)
      (word ++ '"' :: (lineGap blankLines next ++ c :: rest)) := by
    rw [hrest, placesFrom_cons (by decide)]
    rfl
  have hread := readQuotedAfter_word hword stop [] (mark.forward 1)
    (lineGap blankLines next ++ c :: rest)
  rw [List.nil_append] at hread
  have hquoted : ready.takeQuoted stop '"' = .ok
      { ready.emit stop (.scalar (String.ofList word) false)
          (placesFrom (((mark.forward 1).forward word.length).forward 1)
            (lineGap blankLines next ++ c :: rest)) with keyAllowed := false } := by
    rw [Scanner.takeQuoted, Scanner.saveKey_of_not_allowed hallowed, hdrop]
    change (readQuotedAfter stop '"' [] {} _).bind _ = _
    rw [hread]
    rfl
  have htaken := hready.toOutside.emit stop (.scalar (String.ofList word) false)
    (placesFrom (((mark.forward 1).forward word.length).forward 1)
      (lineGap blankLines next ++ c :: rest))
  obtain ⟨behind, hbehind, hskip⟩ := skipFiller_lineGap hc false blankLines next
    (((mark.forward 1).forward word.length).forward 1) rest
  rw [Scanner.takeToken_quote hmark, hquoted] at hstep
  refine ⟨_, behind, hstep, ?_, hbehind, hskip⟩
  exact { noBrackets := htaken.noBrackets, running := htaken.running, taken := htaken.taken,
          blocks := htaken.blocks, noKey := hready.noKey }

end Steps

section Keys

variable {s : Scanner} {kinds : List TokenKind} {indents : List Nat}

/-- A key may begin here. -/
theorem Scanner.Idle.saveKey
    (h : s.Idle kinds indents)
    (hallowed : s.keyAllowed = true)
    (stop : Mark) :
    s.saveKey stop = .ok
      { s with
        key := some
          { index := s.tokens.size
            mark := here stop s.rest
            required := decide (s.indent = (here stop s.rest).column) } } := by
  have hflow := h.flow
  have hdrop := h.dropKey stop
  cases s
  subst hallowed
  rw [Scanner.saveKey, hflow]
  change (Scanner.dropKey _ stop).bind _ = _
  rw [hdrop]
  rfl

theorem Scanner.dropStaleKeys_of_fresh
    {key : PossibleKey}
    (hbrackets : s.outerKeys = [])
    (hkey : s.key = some key)
    {stop : Mark}
    (hfresh : key.isStale (here stop s.rest) = false) :
    s.dropStaleKeys stop = .ok s := by
  cases s
  subst hbrackets
  subst hkey
  simp [Scanner.dropStaleKeys, Scanner.possibleKeys, hfresh]

theorem isStale_forward
    {key : PossibleKey} {count : Nat}
    (h : count ≤ keyLimit) :
    key.isStale (key.mark.forward count) = false := by
  rw [PossibleKey.isStale, Mark.forward]
  simp only [Nat.lt_irrefl, decide_false, Bool.false_or, decide_eq_false_iff_not]
  omega

/-- The colon makes a key of the last scalar. -/
theorem Scanner.Outside.takeColon
    {key : PossibleKey} {scalar : TokenKind}
    (h : s.Outside (kinds ++ [scalar]) indents)
    (hkey : s.key = some key)
    (hindex : key.index = kinds.length)
    (stop : Mark) :
    ∃ taken : Scanner, s.takeColon stop = .ok taken ∧
      taken.Idle (kinds ++ opening .blockMappingStart key.mark.column indents ++
        [.key, scalar, .value]) (withBlock key.mark.column indents) ∧
      taken.keyAllowed = false ∧ taken.rest = s.rest.drop 1 := by
  have hmarked : ({ s with
      tokens := s.tokens.insertIdxIfInBounds key.index { kind := .key, mark := key.mark }
      key := some key } :
      Scanner).Outside (kinds ++ [.key, scalar]) indents :=
    { noBrackets := h.noBrackets
      running := h.running
      taken := by rw [map_kind_insertIdx, h.taken, hindex, insertIdx_append_length]
      blocks := h.blocks }
  have hopened := (hmarked.openBlock .blockMappingStart key.mark).emit stop .value (s.rest.drop 1)
  rw [List.append_assoc _ [.key, scalar]] at hopened
  rw [← hindex] at hopened
  rw [Scanner.takeColon, hkey]
  refine ⟨_, rfl, ?_, rfl, rfl⟩
  exact { noBrackets := hopened.noBrackets, running := hopened.running, taken := hopened.taken,
          blocks := hopened.blocks, noKey := rfl }

/-- Nothing is left to close behind a column once the blocks deeper than it are closed. -/
theorem blockEnds_openAt
    {column deeper : Nat}
    (h : column ≤ deeper)
    (indents : List Nat) :
    blockEnds deeper (openAt column indents) = [] ∧
      openAt deeper (openAt column indents) = openAt column indents := by
  induction indents with
  | nil =>
      exact ⟨rfl, rfl⟩
  | cons indent indents ih =>
      by_cases hle : indent ≤ column
      · rw [openAt_of_le hle, blockEnds_of_le (hle.trans h), openAt_of_le (hle.trans h)]
        exact ⟨rfl, rfl⟩
      · rw [openAt_cons_of_lt (Nat.lt_of_not_le hle)]
        exact ih

/-- The step at the colon behind a key. -/
theorem Scanner.Outside.exists_step_colon
    {key : PossibleKey} {scalar : TokenKind} {mark : Mark} {rest : List Char}
    (h : s.Outside (kinds ++ [scalar]) indents)
    (hkey : s.key = some key)
    (hindex : key.index = kinds.length)
    (hplaces : s.rest = placesFrom mark (':' :: rest))
    (hrest : EndsWord rest)
    (hclosed : blockEnds mark.column indents = [] ∧ openAt mark.column indents = indents)
    (stop : Mark)
    (hfresh : key.isStale mark = false) :
    ∃ taken : Scanner, s.step stop = .ok taken ∧
      taken.Idle (kinds ++ opening .blockMappingStart key.mark.column indents ++
        [.key, scalar, .value]) (withBlock key.mark.column indents) ∧
      taken.keyAllowed = false ∧ taken.rest = placesFrom (mark.forward 1) rest := by
  have hcons : placesFrom mark (':' :: rest) =
      { char := ':', mark } :: placesFrom (mark.forward 1) rest :=
    placesFrom_cons (by decide) mark rest
  have hhere : here stop s.rest = mark := by
    rw [hplaces, hcons]
    rfl
  have hskip : skipFiller false s.keyAllowed false s.rest = (s.keyAllowed, s.rest) := by
    rw [hplaces]
    exact skipFiller_startsToken (by decide) _ mark rest
  have hstale : s.dropStaleKeys stop = .ok s :=
    Scanner.dropStaleKeys_of_fresh h.noBrackets hkey (by rw [hhere]; exact hfresh)
  obtain ⟨hreadyKey, hreadyRest, -⟩ := s.closeBlocks_frame mark mark.column
  have hready := h.closeBlocks mark mark.column
  rw [hclosed.1, hclosed.2, List.append_nil] at hready
  obtain ⟨taken, htake, hidle, hallowed, hbehind⟩ :=
    hready.takeColon (hreadyKey.trans hkey) hindex stop
  have hmark : startsDocumentMark (s.closeBlocks mark mark.column).rest = false := by
    refine startsDocumentMark_eq_false ?_
    intro c hc
    rw [hreadyRest, hplaces, hcons] at hc
    obtain rfl : ':' = c := Option.some_inj.mp hc
    decide
  refine ⟨taken, ?_, hidle, hallowed, ?_⟩
  · rw [Scanner.step, h.flow, hskip]
    change (s.dropStaleKeys stop).bind _ = _
    rw [hstale, hplaces, hcons]
    change ((s.closeBlocks mark mark.column).takeToken stop ':' _).bind _ = _
    rw [Scanner.takeToken_colon hmark (hrest _), htake]
    exact hidle.dropStaleKeys stop
  · rw [hbehind, hreadyRest, hplaces, hcons]
    rfl

/-- The word of a key is taken as a scalar, and remembered as what may be a key. -/
theorem Scanner.Idle.takePlain_key
    {word rest : List Char} {mark : Mark}
    (h : s.Idle kinds indents)
    (hallowed : s.keyAllowed = true)
    (hword : isWord word = true)
    (hrest : EndsWord rest)
    (hplaces : s.rest = placesFrom mark (word ++ ':' :: rest))
    (stop : Mark) :
    ∃ scanned : Scanner, s.takePlain stop = .ok scanned ∧
      scanned.key =
        some { index := s.tokens.size, mark, required := decide (s.indent = mark.column) } ∧
      scanned.rest = placesFrom (mark.forward word.length) (':' :: rest) ∧
      scanned.Outside (kinds ++ [.scalar (String.ofList word) true]) indents := by
  obtain ⟨first, others, rfl, -, hchars, -⟩ := exists_cons_of_isWord hword
  have hhere : here stop s.rest = mark := by
    rw [hplaces, List.cons_append,
      placesFrom_cons (isBreak_of_isWordChar (hchars first List.mem_cons_self))]
    rfl
  have hread : readPlain stop false (s.indent + 1) s.rest = .ok
      { text := first :: others, endsLine := false,
        rest := placesFrom (mark.forward (first :: others).length) (':' :: rest) } := by
    rw [hplaces]
    exact readPlain_key hword stop (s.indent + 1) mark hrest
  let saved : Scanner := { s with
    key := some { index := s.tokens.size, mark, required := decide (s.indent = mark.column) } }
  refine ⟨{ saved.emit stop (.scalar (String.ofList (first :: others)) true)
      (placesFrom (mark.forward (first :: others).length) (':' :: rest)) with
    keyAllowed := false }, ?_, rfl, rfl, ?_⟩
  · rw [Scanner.takePlain, h.saveKey hallowed, h.flow, hhere]
    change (readPlain stop false (s.indent + 1) s.rest).bind _ = _
    rw [hread]
    rfl
  · have htaken := h.toOutside.emit stop (.scalar (String.ofList (first :: others)) true)
      (placesFrom (mark.forward (first :: others).length) (':' :: rest))
    exact { noBrackets := htaken.noBrackets, running := htaken.running, taken := htaken.taken,
            blocks := htaken.blocks }

/-- **A key with its colon.** -/
theorem Leads.key
    (kinds : List TokenKind)
    (indents : List Nat)
    (column : Nat)
    {word rest chars : List Char} {next : Nat} {keyAllowed : Bool}
    (hword : isWord word = true)
    (hrest : EndsWord rest)
    (hgap : ∀ mark : Mark, mark.column = column + word.length + 1 →
      ∃ behind : Mark, behind.column = next ∧
        skipFiller false false false (placesFrom mark rest) = (keyAllowed, placesFrom behind chars))
    (stop : Mark) :
    Leads stop 2
      { kinds, indents, keyAllowed := true, column, chars := word ++ ':' :: rest }
      { kinds := kinds ++ blockEnds column indents ++
          opening .blockMappingStart column (openAt column indents) ++
          [.key, .scalar (String.ofList word) true, .value]
        indents := withBlock column (openAt column indents)
        keyAllowed, column := next, chars } := by
  intro s hs
  obtain ⟨first, others, rfl, hfirst, hchars, hlength⟩ := exists_cons_of_isWord hword
  obtain ⟨ready, mark, rfl, hready, hallowed, hplaces, hstep⟩ :=
    hs.exists_step_eq (isBreak_of_isWordChar (hchars first List.mem_cons_self)) stop
  have hmark : startsDocumentMark ready.rest = false := by
    rw [hplaces]
    exact startsDocumentMark_word hfirst mark _
  have hfresh : ∀ required : Bool, ({ index := ready.tokens.size, mark, required } :
      PossibleKey).isStale (mark.forward (first :: others).length) = false :=
    fun _ => isStale_forward hlength
  -- the first step takes the word and remembers that it may be a key
  obtain ⟨scanned, hscanned, hkey, hbehind, houtside⟩ :=
    hready.takePlain_key hallowed hword hrest hplaces stop
  have hhere : here stop scanned.rest = mark.forward (first :: others).length := by
    rw [hbehind, placesFrom_cons (by decide)]
    rfl
  rw [Scanner.takeToken_word hmark hfirst, hscanned] at hstep
  change s.step stop = scanned.dropStaleKeys stop at hstep
  rw [Scanner.dropStaleKeys_of_fresh houtside.noBrackets hkey
    (by rw [hhere]; exact hfresh _)] at hstep
  -- the second step makes it a key
  have hindex : ready.tokens.size = (kinds ++ blockEnds mark.column indents).length := by
    rw [← hready.taken, List.length_map, Array.length_toList]
  obtain ⟨taken, hcolon, hidle, hvalue, htaken⟩ := houtside.exists_step_colon hkey hindex hbehind
    hrest (blockEnds_openAt (Nat.le_add_right _ _) indents) stop (hfresh _)
  obtain ⟨behind, hcolumn, hskip⟩ := hgap ((mark.forward (first :: others).length).forward 1) rfl
  refine ⟨taken, .step hstep houtside.running (.step hcolon hidle.running (.refl taken)), ?_⟩
  refine ⟨hidle, behind, hcolumn, ?_⟩
  rw [hvalue, htaken]
  exact hskip

/-- What separates a token from one behind it on the same line. -/
theorem skipFiller_blank
    {c : Char}
    (hc : startsToken c = true)
    (mark : Mark)
    (rest : List Char) :
    skipFiller false false false (placesFrom mark (' ' :: c :: rest)) =
      (false, placesFrom (mark.forward 1) (c :: rest)) :=
  (skipFiller_blanks false 1 mark (c :: rest)).trans
    (skipFiller_startsToken hc false (mark.forward 1) rest)

/-- The collection at a column is the innermost block there. -/
theorem exists_withBlock_eq (column : Nat) (indents : List Nat) :
    ∃ outer, withBlock column (openAt column indents) = column :: outer := by
  induction indents with
  | nil =>
      exact ⟨[], rfl⟩
  | cons indent indents ih =>
      by_cases hle : indent ≤ column
      · rw [openAt_of_le hle, withBlock]
        split
        · next hsame =>
          exact ⟨indents, by rw [Nat.le_antisymm hsame hle]⟩
        · exact ⟨indent :: indents, rfl⟩
      · rw [openAt_cons_of_lt (Nat.lt_of_not_le hle)]
        exact ih

/-- **A key with a plain scalar on its line.** -/
theorem Leads.entry
    (kinds : List TokenKind)
    (indents : List Nat)
    {key value : List Char} {c : Char} {column next : Nat}
    (hkey : isWord key = true)
    (hvalue : isWord value = true)
    (hnext : next ≤ column)
    (hc : startsToken c = true)
    (stop : Mark)
    (blankLines : Nat)
    (rest : List Char) :
    Leads stop 3
      { kinds, indents, keyAllowed := true, column
        chars := key ++ ':' :: ' ' :: (value ++ (lineGap blankLines next ++ c :: rest)) }
      { kinds := kinds ++ blockEnds column indents ++
          opening .blockMappingStart column (openAt column indents) ++
          [.key, .scalar (String.ofList key) true, .value] ++ [.scalar (String.ofList value) true]
        indents := withBlock column (openAt column indents)
        keyAllowed := true, column := next, chars := c :: rest } := by
  obtain ⟨outer, houter⟩ := exists_withBlock_eq column indents
  have hdeep : column < column + key.length + 2 := by omega
  have hread := Leads.value (kinds ++ blockEnds column indents ++
      opening .blockMappingStart column (openAt column indents) ++
      [.key, .scalar (String.ofList key) true, .value]) outer hvalue hdeep hnext hc stop
    blankLines rest
  rw [← houter] at hread
  refine (Leads.key kinds indents column hkey (fun _ => rfl) ?_ stop).trans hread
  intro mark hmark
  obtain ⟨first, others, rfl, hfirst, -⟩ := exists_cons_of_isWord hvalue
  refine ⟨mark.forward 1, ?_, skipFiller_blank (startsToken_of_isIdentifierChar hfirst) mark _⟩
  rw [Mark.forward, hmark]

end Keys

section End

variable {s : Scanner} {kinds : List TokenKind} {indents : List Nat}

/-- At the end all blocks are closed. -/
theorem blockEnds_append_blockEnds (column : Int) (indents : List Nat) :
    blockEnds column indents ++ blockEnds (-1) (openAt column indents) =
      List.replicate indents.length .blockEnd := by
  have hall : ∀ indents : List Nat,
      indents.takeWhile (fun (indent : Nat) => decide ((-1 : Int) < indent)) = indents := by
    intro indents
    refine List.takeWhile_eq_self_iff.mpr ?_
    intro indent _
    rw [decide_eq_true_eq]
    omega
  have hlength : (indents.takeWhile fun (indent : Nat) => decide (column < indent)).length ≤
      indents.length :=
    (List.takeWhile_sublist _).length_le
  rw [blockEnds, blockEnds, hall, List.replicate_append_replicate, openAt, List.length_drop]
  congr 1
  omega

/-- The last step closes all blocks. -/
theorem Scanner.Idle.exists_step_end
    (h : s.Idle kinds indents)
    (hrest : s.rest = [])
    (stop : Mark) :
    ∃ taken : Scanner, s.step stop = .ok taken ∧ taken.finished = true ∧
      taken.tokens.toList.map Token.kind =
        kinds ++ List.replicate indents.length .blockEnd ++ [.streamEnd] := by
  have hskip : skipFiller false s.keyAllowed false s.rest = (s.keyAllowed, []) := by
    rw [hrest]
    rfl
  have hfresh : ({ s with rest := [] } : Scanner).Idle kinds indents :=
    { noBrackets := h.noBrackets, running := h.running, taken := h.taken, blocks := h.blocks,
      noKey := h.noKey }
  let mark := if stop.column = 0 then stop else { stop with line := stop.line + 1, column := 0 }
  let closed := (Scanner.closeBlocks { s with rest := [] } stop stop.column).closeBlocks mark (-1)
  have hclosed : closed.Idle
      (kinds ++ blockEnds stop.column indents ++ blockEnds (-1) (openAt stop.column indents))
      (openAt (-1) (openAt stop.column indents)) := by
    refine { (hfresh.toOutside.closeBlocks stop stop.column).closeBlocks mark (-1) with
      noKey := ?_ }
    rw [(Scanner.closeBlocks_frame _ _ _).1, (Scanner.closeBlocks_frame _ _ _).1]
    exact h.noKey
  rw [List.append_assoc, blockEnds_append_blockEnds] at hclosed
  refine ⟨{ closed.emit mark .streamEnd [] with keyAllowed := false, finished := true }, ?_, rfl,
    (hclosed.toOutside.emit mark .streamEnd []).taken⟩
  rw [Scanner.step, h.flow, hskip]
  change (Scanner.dropStaleKeys { s with rest := [] } stop).bind _ = _
  rw [hfresh.dropStaleKeys]
  change (closed.dropKey mark).bind _ = _
  rw [hclosed.dropKey]
  rfl

/-- **A literal block that goes on to the end of the text.** -/
theorem Scanner.At.exists_scan_literal
    {indent column width : Nat} {c : Char} {cs : List Char} {others : List (List Char)}
    (h : s.At
      { kinds, indents := indent :: indents, keyAllowed := false, column
        chars := '|' :: '-' :: '\n' :: literalLines width ((c :: cs) :: others) })
    (hdeep : indent < column)
    (hwidth : indent < width)
    (hfirst : IsLine (c :: cs))
    (hc : isBlank c = false)
    (hothers : ∀ other ∈ others, IsLine other)
    (stop : Mark)
    (more : Nat) :
    ∃ tokens : List Token,
      TokenStream.scan stop (more + 2) s = { tokens, fault := none } ∧
        tokens.map Token.kind =
          kinds ++ [.scalar (String.ofList (['\n'].intercalate ((c :: cs) :: others))) false] ++
            List.replicate (indents.length + 1) .blockEnd ++ [.streamEnd] := by
  obtain ⟨ready, mark, rfl, hready, hallowed, hplaces, hstep⟩ :=
    h.exists_step_eq (by decide) stop
  rw [blockEnds_of_le hdeep.le, openAt_of_le hdeep.le, List.append_nil] at hready
  have hmark : startsDocumentMark ready.rest = false := by
    refine startsDocumentMark_eq_false ?_
    intro d hd
    rw [hplaces, placesFrom_cons (by decide)] at hd
    obtain rfl : '|' = d := Option.some_inj.mp hd
    decide
  have hdrop : ready.rest.drop 1 = placesFrom (mark.forward 1)
      ('-' :: '\n' :: literalLines width ((c :: cs) :: others)) := by
    rw [hplaces, placesFrom_cons (by decide)]
    rfl
  have hparent : ready.indent < width := by
    rw [Scanner.indent, hready.blocks]
    exact Int.ofNat_lt.mpr hwidth
  have hread := readBlockScalar_literalLines hfirst hc hothers hparent (by omega) stop
    (mark.forward 1)
  let text := ['\n'].intercalate ((c :: cs) :: others)
  have htake : ready.takeBlockScalar stop false = .ok
      { ready.emit stop (.scalar (String.ofList text) false) [] with keyAllowed := true } := by
    rw [Scanner.takeBlockScalar, hready.dropKey, hdrop]
    change (readBlockScalar stop false ready.indent _).bind _ = _
    rw [hread]
    rfl
  have htaken := hready.toOutside.emit stop (.scalar (String.ofList text) false) []
  have hidle : ({ ready.emit stop (.scalar (String.ofList text) false) [] with
      keyAllowed := true } : Scanner).Idle (kinds ++ [.scalar (String.ofList text) false])
      (indent :: indents) :=
    { noBrackets := htaken.noBrackets, running := htaken.running, taken := htaken.taken,
      blocks := htaken.blocks, noKey := hready.noKey }
  rw [Scanner.takeToken_bar hmark hready.flow, htake] at hstep
  change s.step stop = Scanner.dropStaleKeys _ stop at hstep
  rw [hidle.dropStaleKeys] at hstep
  obtain ⟨last, hlast, hfinished, hkinds⟩ := hidle.exists_step_end rfl stop
  refine ⟨last.tokens.toList, ?_, hkinds⟩
  have hsteps : more + 2 = 0 + 1 + (more + 1) := by omega
  rw [hsteps, (Reaches.step hstep hidle.running (.refl _)).scan_eq (more + 1), TokenStream.scan,
    hlast]
  simp only [hfinished, if_true]

end End

end Yaml
end EpaperLayout
