import EpaperLayout.Proofs.Snippet.PieceLocality
import EpaperLayout.Proofs.Snippet.QuietCode

/-!
# Code with a wider gap

When a text is put behind a blank and adds nothing but blanks to the code, all
places behind the gap move on by its size and the others stay.  Everything that is
looked for in the code is found again, at the place that it has moved to.

**Relation.** `Widened gap size places places'` says that `places'` are the
`places` with such blanks in the gap, the offset where the text was put.  The
blank before the gap goes along with the added ones: it is there, or none of them
is, so that every search meets them in the middle of a run of blanks.

**Results.**
* `Widened.dropWhile`, `Widened.filter`: parts of related code are related.
* `Widened.findDispatch?_eq`, `Widened.labelsAfter_eq`, `Widened.closingBrace?_eq`:
  dispatch, labels and braces move along.
* `Widened.depthOf_eq`: the nesting depth stays what it is.
-/

namespace EpaperLayout
namespace Snippet

/-- The offset of a place when `size` bytes have been put in at `gap`. -/
def moved (gap size offset : Nat) : Nat :=
  if offset < gap then offset else offset + size

section Moved

variable {gap size a b : Nat}

theorem moved_of_lt (h : a < gap) : moved gap size a = a :=
  if_pos h

theorem moved_of_le (h : gap ≤ a) : moved gap size a = a + size :=
  if_neg (Nat.not_lt.mpr h)

theorem moved_lt_moved_iff : moved gap size a < moved gap size b ↔ a < b := by
  unfold moved
  split <;> split <;> omega

theorem moved_le_moved_iff : moved gap size a ≤ moved gap size b ↔ a ≤ b := by
  unfold moved
  split <;> split <;> omega

theorem moved_inj : moved gap size a = moved gap size b ↔ a = b := by
  unfold moved
  split <;> split <;> omega

/-- What follows a place goes on following it, unless the gap is between them. -/
theorem moved_succ
    (h : a + 1 ≠ gap) :
    moved gap size (a + 1) = moved gap size a + 1 := by
  unfold moved
  split <;> split <;> omega

end Moved

/-- A place when `size` bytes have been put in at `gap`. -/
def Located.moved (gap size : Nat) (place : Located) : Located :=
  { place with offset := Snippet.moved gap size place.offset }

@[simp] theorem Located.char_moved (gap size : Nat) (place : Located) :
    (place.moved gap size).char = place.char :=
  rfl

@[simp] theorem Located.offset_moved (gap size : Nat) (place : Located) :
    (place.moved gap size).offset = Snippet.moved gap size place.offset :=
  rfl

/-- A dispatch when `size` bytes have been put in at `gap`. -/
def Dispatch.moved (gap size : Nat) (dispatch : Dispatch) : Dispatch where
  start := Snippet.moved gap size dispatch.start
  opening := Snippet.moved gap size dispatch.opening

/-- A label when `size` bytes have been put in at `gap`. -/
def Label.moved (gap size : Nat) (label : Label) : Label where
  digits := label.digits
  start := Snippet.moved gap size label.start
  stop := Snippet.moved gap size label.stop

section Blanks

/-- No search of the code stops at a blank for what the blank is. -/
theorem plainBlank_cases
    {c : Char}
    (h : isPlainBlank c = true) :
    Text.isBlank c = true ∧ Text.isWordChar c = false ∧ Text.isAnyDigit c = false := by
  simp only [isPlainBlank, Bool.or_eq_true, decide_eq_true_eq] at h
  rcases h with ((((rfl | rfl) | rfl) | rfl) | rfl) | rfl <;> decide

theorem ne_of_isPlainBlank
    {c d : Char}
    (h : isPlainBlank c = true)
    (hd : isPlainBlank d = false) :
    c ≠ d := by
  rintro rfl
  rw [h] at hd
  cases hd

theorem allowsWord_of_isPlainBlank
    {c : Char}
    (h : isPlainBlank c = true) :
    allowsWord (some c) = true := by
  rw [allowsWord, (plainBlank_cases h).2.1]
  rfl

end Blanks

/-- Places of the code with blanks put in at `gap`, behind a blank. -/
inductive Widened (gap size : Nat) : List Located → List Located → Prop
  | nil : Widened gap size [] []
  /-- A place that is not the one before the gap. -/
  | keep {place : Located} {rest rest' : List Located}
      (apart : place.offset + 1 ≠ gap)
      (others : Widened gap size rest rest') :
      Widened gap size (place :: rest) (place.moved gap size :: rest')
  /-- The blank before the gap, with the blanks that have been put in. -/
  | widen {blank : Located} {filler rest rest' : List Located}
      (before : blank.offset + 1 = gap)
      (isBlank : isPlainBlank blank.char = true)
      (added : ∀ place ∈ filler,
        isPlainBlank place.char = true ∧ gap ≤ place.offset ∧ place.offset < gap + size)
      (others : Widened gap size rest rest') :
      Widened gap size (blank :: rest) (blank.moved gap size :: (filler ++ rest'))

namespace Widened

variable {gap size : Nat} {places places' : List Located}

/-- The gap is not behind a place of the code other than a blank. -/
theorem apart_of_mem
    (h : Widened gap size places places')
    {place : Located}
    (hmem : place ∈ places)
    (hchar : isPlainBlank place.char = false) :
    place.offset + 1 ≠ gap := by
  induction h with
  | nil =>
      cases hmem
  | keep apart _ ih =>
      rcases List.mem_cons.mp hmem with rfl | hmem
      · exact apart
      · exact ih hmem
  | widen _ isBlank _ _ ih =>
      rcases List.mem_cons.mp hmem with rfl | hmem
      · rw [isBlank] at hchar
        cases hchar
      · exact ih hmem

/-- Two tests of places go together over a wider gap: they agree on places that are moved, and
with the blank before the gap the added blanks pass the second. -/
structure Agree (gap size : Nat) (p p' : Located → Bool) : Prop where
  moved : ∀ place : Located, p' (place.moved gap size) = p place
  added : ∀ blank place : Located, blank.offset + 1 = gap → isPlainBlank blank.char = true →
    isPlainBlank place.char = true → gap ≤ place.offset → place.offset < gap + size →
    p' place = p blank

theorem dropWhile
    {p p' : Located → Bool}
    (hagree : Agree gap size p p')
    (h : Widened gap size places places') :
    Widened gap size (places.dropWhile p) (places'.dropWhile p') := by
  induction h with
  | nil =>
      exact .nil
  | @keep place rest rest' apart others ih =>
      rw [List.dropWhile_cons, List.dropWhile_cons, hagree.moved]
      split
      · exact ih
      · exact .keep apart others
  | @widen blank filler rest rest' before isBlank added others ih =>
      rw [List.dropWhile_cons, List.dropWhile_cons, hagree.moved]
      split
      · next hpass =>
        rw [List.dropWhile_append_of_pos]
        · exact ih
        · intro place hplace
          obtain ⟨hchar, hlow, hhigh⟩ := added place hplace
          rw [hagree.added blank place before isBlank hchar hlow hhigh, hpass]
      · exact .widen before isBlank added others

theorem filter
    {p p' : Located → Bool}
    (hagree : Agree gap size p p')
    (h : Widened gap size places places') :
    Widened gap size (places.filter p) (places'.filter p') := by
  induction h with
  | nil =>
      exact .nil
  | @keep place rest rest' apart others ih =>
      rw [List.filter_cons, List.filter_cons, hagree.moved]
      split
      · exact .keep apart ih
      · exact ih
  | @widen blank filler rest rest' before isBlank added others ih =>
      have hadded : ∀ place ∈ filler, p' place = p blank := by
        intro place hplace
        obtain ⟨hchar, hlow, hhigh⟩ := added place hplace
        exact hagree.added blank place before isBlank hchar hlow hhigh
      rw [List.filter_cons, List.filter_cons, hagree.moved, List.filter_append]
      split
      · exact .widen before isBlank (fun place hplace => added place (List.mem_of_mem_filter hplace))
          ih
      · next hfail =>
        have hnone : filler.filter p' = [] := by
          rw [List.filter_eq_nil_iff]
          intro place hplace
          rwa [hadded place hplace]
        rw [hnone, List.nil_append]
        exact ih

/-- Tests of the character alone go together if they do not tell blanks from each other. -/
theorem agree_of_char
    {test : Char → Bool}
    (h : ∀ c d, isPlainBlank c = true → isPlainBlank d = true → test d = test c) :
    Agree gap size (fun place => test place.char) fun place => test place.char where
  moved := fun _ => rfl
  added := fun blank place _ hblank hplace _ _ => h blank.char place.char hblank hplace

theorem agree_before (bound : Nat) :
    Agree gap size (fun place => decide (place.offset < bound))
      fun place => decide (place.offset < moved gap size bound) where
  moved := fun place => decide_eq_decide.mpr moved_lt_moved_iff
  added := by
    intro blank place hblank _ _ hlow hhigh
    refine decide_eq_decide.mpr ?_
    unfold Snippet.moved
    split <;> omega

theorem agree_within (start stop : Nat) :
    Agree gap size (fun place => decide (start ≤ place.offset) && decide (place.offset < stop))
      fun place => decide (moved gap size start ≤ place.offset) &&
        decide (place.offset < moved gap size stop) where
  moved := by
    intro place
    exact congrArg₂ and (decide_eq_decide.mpr moved_le_moved_iff)
      (decide_eq_decide.mpr moved_lt_moved_iff)
  added := by
    intro blank place hblank _ _ hlow hhigh
    refine congrArg₂ and (decide_eq_decide.mpr ?_) (decide_eq_decide.mpr ?_)
    · unfold Snippet.moved
      split <;> omega
    · unfold Snippet.moved
      split <;> omega

/-! ### Words and tokens -/

theorem skipBlanks
    (h : Widened gap size places places') :
    Widened gap size (Snippet.skipBlanks places) (Snippet.skipBlanks places') := by
  refine h.dropWhile (agree_of_char ?_)
  intro c d hc hd
  rw [(plainBlank_cases hc).1, (plainBlank_cases hd).1]

/-- The first place stays the first, and the same code follows it behind the next blanks. -/
theorem exists_eq_cons
    {place : Located} {rest : List Located}
    (h : Widened gap size (place :: rest) places') :
    ∃ rest', places' = place.moved gap size :: rest' ∧
      Widened gap size (Snippet.skipBlanks rest) (Snippet.skipBlanks rest') := by
  cases h with
  | keep apart others =>
      exact ⟨_, rfl, others.skipBlanks⟩
  | @widen _ filler _ rest' before isBlank added others =>
      refine ⟨_, rfl, ?_⟩
      have hfiller : Snippet.skipBlanks (filler ++ rest') = Snippet.skipBlanks rest' :=
        List.dropWhile_append_of_pos fun place hplace =>
          (plainBlank_cases (added place hplace).1).1
      rw [hfiller]
      exact others.skipBlanks

theorem afterWord?
    {word : List Char}
    (hword : ∀ c ∈ word, isPlainBlank c = false)
    (h : Widened gap size places places') :
    Option.Rel (Widened gap size) (Snippet.afterWord? word places)
      (Snippet.afterWord? word places') := by
  induction word generalizing places places' with
  | nil =>
      exact .some h
  | cons c word ih =>
      have hrest := fun {rest rest' : List Located} (others : Widened gap size rest rest') =>
        ih (fun d hd => hword d (List.mem_cons_of_mem _ hd)) others
      cases h with
      | nil =>
          exact .none
      | @keep place rest rest' apart others =>
          rw [Snippet.afterWord?, Snippet.afterWord?, Located.char_moved]
          split
          · exact hrest others
          · exact .none
      | @widen blank filler rest rest' before isBlank added others =>
          have hne : blank.char ≠ c :=
            ne_of_isPlainBlank isBlank (hword c List.mem_cons_self)
          rw [Snippet.afterWord?, Snippet.afterWord?, Located.char_moved, if_neg hne, if_neg hne]
          exact .none

/-- What is looked for behind related code is found at the place it has moved to. -/
theorem bind_eq_map_bind
    {α : Type} {found found' : Option (List Located)} {next next' : List Located → Option α}
    {move : α → α}
    (hfound : Option.Rel (Widened gap size) found found')
    (hnext : ∀ rest rest', Widened gap size rest rest' → next' rest' = (next rest).map move) :
    found'.bind next' = (found.bind next).map move := by
  cases hfound with
  | none => rfl
  | some hrest => exact hnext _ _ hrest

theorem afterTokens?
    {tokens : List (List Char)}
    (htokens : ∀ token ∈ tokens, ∀ c ∈ token, isPlainBlank c = false)
    (h : Widened gap size places places') :
    Option.Rel (Widened gap size) (Snippet.afterTokens? tokens places)
      (Snippet.afterTokens? tokens places') := by
  induction tokens generalizing places places' with
  | nil =>
      exact .some h
  | cons token tokens ih =>
      have hword := h.skipBlanks.afterWord? (htokens token List.mem_cons_self)
      rw [Snippet.afterTokens?, Snippet.afterTokens?]
      revert hword
      generalize Snippet.afterWord? token (Snippet.skipBlanks places) = found
      generalize Snippet.afterWord? token (Snippet.skipBlanks places') = found'
      intro hword
      cases hword with
      | none =>
          exact .none
      | some others =>
          exact ih (fun other hother => htokens other (List.mem_cons_of_mem _ hother)) others

theorem head?_eq
    (h : Widened gap size places places') :
    places'.head? = places.head?.map (Located.moved gap size) := by
  cases h <;> rfl

/-! ### The dispatch -/

theorem dispatchBrace?_eq_bind (places : List Located) :
    dispatchBrace? places =
      (Snippet.afterWord? "switch".toList places).bind fun afterSwitch =>
        (Snippet.afterTokens? dispatchTokens afterSwitch).bind fun afterHead =>
          (Snippet.skipBlanks afterHead).head?.bind fun place =>
            if place.char = '{' then some place.offset else none := by
  unfold dispatchBrace?
  congr 1
  funext afterSwitch
  congr 1
  funext afterHead
  cases Snippet.skipBlanks afterHead <;> rfl

theorem dispatchBrace?_eq
    (h : Widened gap size places places') :
    dispatchBrace? places' = (dispatchBrace? places).map (Snippet.moved gap size) := by
  rw [dispatchBrace?_eq_bind, dispatchBrace?_eq_bind]
  refine bind_eq_map_bind (h.afterWord? (by decide)) ?_
  intro afterSwitch afterSwitch' hswitch
  refine bind_eq_map_bind (hswitch.afterTokens? (by decide)) ?_
  intro afterHead afterHead' hhead
  rw [hhead.skipBlanks.head?_eq]
  cases (Snippet.skipBlanks afterHead).head? with
  | none =>
      rfl
  | some place =>
      by_cases hbrace : place.char = '{' <;> simp [hbrace]

/-- No word begins at a blank. -/
theorem afterWord?_blank
    {blank : Located}
    (hblank : isPlainBlank blank.char = true)
    {c : Char}
    (hc : isPlainBlank c = false)
    (word : List Char) (rest : List Located) :
    Snippet.afterWord? (c :: word) (blank :: rest) = none := by
  rw [Snippet.afterWord?, if_neg (ne_of_isPlainBlank hblank hc)]

theorem dispatchBrace?_blank
    {blank : Located}
    (hblank : isPlainBlank blank.char = true)
    (rest : List Located) :
    dispatchBrace? (blank :: rest) = none := by
  have hword : Snippet.afterWord? "switch".toList (blank :: rest) = none :=
    afterWord?_blank hblank (by decide) _ rest
  rw [dispatchBrace?_eq_bind, hword, Option.bind_none]

/-- The search for a dispatch goes on behind a blank as behind any end of a word. -/
theorem findDispatch?_blank
    {blank : Located}
    (hblank : isPlainBlank blank.char = true)
    (previous : Option Char) (rest : List Located) :
    findDispatch? previous (blank :: rest) = findDispatch? none rest := by
  have hnone : (if allowsWord previous then dispatchBrace? (blank :: rest) else none) = none := by
    rw [dispatchBrace?_blank hblank, ite_self]
  rw [findDispatch?]
  simp only [hnone]
  cases rest with
  | nil => rfl
  | cons place rest => rw [findDispatch?, findDispatch?, allowsWord_of_isPlainBlank hblank]; rfl

theorem findDispatch?_blanks
    {filler : List Located}
    (hfiller : ∀ place ∈ filler, isPlainBlank place.char = true)
    (rest : List Located) :
    findDispatch? none (filler ++ rest) = findDispatch? none rest := by
  induction filler with
  | nil =>
      rfl
  | cons blank filler ih =>
      rw [List.cons_append, findDispatch?_blank (hfiller blank List.mem_cons_self), ih]
      exact fun place hplace => hfiller place (List.mem_cons_of_mem _ hplace)

/-- **The dispatch moves along.** -/
theorem findDispatch?_eq
    (h : Widened gap size places places')
    (previous : Option Char) :
    findDispatch? previous places' =
      (findDispatch? previous places).map (Dispatch.moved gap size) := by
  induction h generalizing previous with
  | nil =>
      rfl
  | @keep place rest rest' apart others ih =>
      have hbrace := (Widened.keep apart others).dispatchBrace?_eq
      have hcondition : (if allowsWord previous
            then dispatchBrace? (place.moved gap size :: rest') else none) =
          (if allowsWord previous then dispatchBrace? (place :: rest) else none).map
            (Snippet.moved gap size) := by
        split
        · exact hbrace
        · rfl
      rw [findDispatch?, findDispatch?, hcondition]
      cases if allowsWord previous then dispatchBrace? (place :: rest) else none with
      | none => exact ih (some place.char)
      | some opening => rfl
  | @widen blank filler rest rest' before isBlank added others ih =>
      have hmoved : isPlainBlank (blank.moved gap size).char = true := isBlank
      rw [findDispatch?_blank isBlank, findDispatch?_blank hmoved,
        findDispatch?_blanks fun place hplace => (added place hplace).1]
      exact ih none

/-! ### Labels -/

theorem afterColon?_eq_bind (places : List Located) :
    afterColon? places = (Snippet.skipBlanks places).head?.bind fun place =>
      if place.char = ':' then some (place.offset + 1) else none := by
  unfold afterColon?
  cases Snippet.skipBlanks places <;> rfl

/-- The place behind a colon moves with the colon, since the gap is behind a blank. -/
theorem afterColon?_eq
    (h : Widened gap size places places') :
    afterColon? places' = (afterColon? places).map (Snippet.moved gap size) := by
  have hcolon : isPlainBlank ':' = false := by decide
  rw [afterColon?_eq_bind, afterColon?_eq_bind, h.skipBlanks.head?_eq]
  cases hplace : (Snippet.skipBlanks places).head? with
  | none =>
      rfl
  | some place =>
      by_cases hchar : place.char = ':'
      · have hmem := List.mem_of_mem_head? hplace
        have hapart := h.skipBlanks.apart_of_mem hmem (by rw [hchar, hcolon])
        simp [hchar, moved_succ hapart]
      · simp [hchar]

theorem takeWhile_isAnyDigit
    (h : Widened gap size places places') :
    (places'.takeWhile fun place => Text.isAnyDigit place.char).map Located.char =
      (places.takeWhile fun place => Text.isAnyDigit place.char).map Located.char := by
  induction h with
  | nil =>
      rfl
  | @keep place rest rest' apart others ih =>
      rw [List.takeWhile_cons, List.takeWhile_cons, Located.char_moved]
      split
      · rw [List.map_cons, List.map_cons, ih, Located.char_moved]
      · rfl
  | @widen blank filler rest rest' before isBlank added others ih =>
      rw [List.takeWhile_cons, List.takeWhile_cons, Located.char_moved,
        (plainBlank_cases isBlank).2.2]
      rfl

/-- The number at the start of the places and the end of its label. -/
def numberLabel? (places : List Located) : Option (List Char × Nat) :=
  let digits := (places.takeWhile fun place => Text.isAnyDigit place.char).map Located.char
  if digits.isEmpty then none
  else (afterColon? (places.dropWhile fun place => Text.isAnyDigit place.char)).map
    fun stop => (digits, stop)

theorem numberLabel?_eq
    (h : Widened gap size places places') :
    numberLabel? places' = (numberLabel? places).map (Prod.map id (Snippet.moved gap size)) := by
  have hagree : Agree gap size (fun place => Text.isAnyDigit place.char)
      fun place => Text.isAnyDigit place.char := by
    refine agree_of_char fun c d hc hd => ?_
    rw [(plainBlank_cases hc).2.2, (plainBlank_cases hd).2.2]
  rw [numberLabel?, numberLabel?, h.takeWhile_isAnyDigit, (h.dropWhile hagree).afterColon?_eq]
  split
  · rfl
  · rw [Option.map_map, Option.map_map]
    rfl

/-- A page label is its keyword, a blank, and its number with a colon. -/
theorem pageLabel?_eq_bind (places : List Located) :
    pageLabel? places = (Snippet.afterWord? "case".toList places).bind fun
      | blank :: rest =>
        if Text.isBlank blank.char then numberLabel? (Snippet.skipBlanks rest) else none
      | [] => none := by
  have hdrop : ∀ places : List Located,
      places.drop ((places.takeWhile fun place => Text.isAnyDigit place.char).map
        Located.char).length = places.dropWhile fun place => Text.isAnyDigit place.char := by
    intro places
    induction places with
    | nil =>
        rfl
    | cons place rest ih =>
        rw [List.takeWhile_cons, List.dropWhile_cons]
        split
        · exact ih
        · rfl
  unfold pageLabel?
  simp only [hdrop]
  cases Snippet.afterWord? "case".toList places with
  | none => rfl
  | some afterCase => cases afterCase <;> rfl

theorem pageLabel?_eq
    (h : Widened gap size places places') :
    pageLabel? places' = (pageLabel? places).map (Prod.map id (Snippet.moved gap size)) := by
  rw [pageLabel?_eq_bind, pageLabel?_eq_bind]
  refine bind_eq_map_bind (h.afterWord? (by decide)) ?_
  intro afterCase afterCase' hcase
  cases afterCase with
  | nil =>
      cases hcase
      rfl
  | cons blank rest =>
      obtain ⟨rest', rfl, hrest⟩ := hcase.exists_eq_cons
      simp only [Located.char_moved, hrest.numberLabel?_eq]
      split <;> rfl

theorem defaultLabel?_eq
    (h : Widened gap size places places') :
    defaultLabel? places' = (defaultLabel? places).map (Snippet.moved gap size) :=
  bind_eq_map_bind (h.afterWord? (by decide)) fun _ _ hrest => hrest.afterColon?_eq

theorem labelAt?_eq
    (h : Widened gap size places places') :
    labelAt? places' = (labelAt? places).map (Label.moved gap size) := by
  cases places with
  | nil =>
      cases h
      rfl
  | cons place rest =>
      have hpage := h.pageLabel?_eq
      have hdefault := h.defaultLabel?_eq
      obtain ⟨rest', rfl, -⟩ := h.exists_eq_cons
      rw [labelAt?, labelAt?, hpage, hdefault]
      cases pageLabel? (place :: rest) with
      | some found =>
          rfl
      | none =>
          cases defaultLabel? (place :: rest) <;> rfl

/-- No label begins at a blank, and the search goes on behind it as behind any end of a word. -/
theorem labelsAfter_blank
    {blank : Located}
    (hblank : isPlainBlank blank.char = true)
    (previous : Option Char) (rest : List Located) :
    labelsAfter previous (blank :: rest) = labelsAfter none rest := by
  have hpage : Snippet.afterWord? "case".toList (blank :: rest) = none :=
    afterWord?_blank hblank (by decide) _ rest
  have hdefault : Snippet.afterWord? "default".toList (blank :: rest) = none :=
    afterWord?_blank hblank (by decide) _ rest
  have hlabel : labelAt? (blank :: rest) = none := by
    rw [labelAt?, pageLabel?_eq_bind, hpage, defaultLabel?, hdefault]
    rfl
  rw [labelsAfter, hlabel, ite_self]
  simp only
  cases rest with
  | nil => rfl
  | cons place rest => rw [labelsAfter, labelsAfter, allowsWord_of_isPlainBlank hblank]; rfl

theorem labelsAfter_blanks
    {filler : List Located}
    (hfiller : ∀ place ∈ filler, isPlainBlank place.char = true)
    (rest : List Located) :
    labelsAfter none (filler ++ rest) = labelsAfter none rest := by
  induction filler with
  | nil =>
      rfl
  | cons blank filler ih =>
      rw [List.cons_append, labelsAfter_blank (hfiller blank List.mem_cons_self), ih]
      exact fun place hplace => hfiller place (List.mem_cons_of_mem _ hplace)

/-- **The labels move along.** -/
theorem labelsAfter_eq
    (h : Widened gap size places places')
    (previous : Option Char) :
    labelsAfter previous places' = (labelsAfter previous places).map (Label.moved gap size) := by
  induction h generalizing previous with
  | nil =>
      rfl
  | @keep place rest rest' apart others ih =>
      have hlabel := (Widened.keep apart others).labelAt?_eq
      have hcondition : (if allowsWord previous
            then labelAt? (place.moved gap size :: rest') else none) =
          (if allowsWord previous then labelAt? (place :: rest) else none).map
            (Label.moved gap size) := by
        split
        · exact hlabel
        · rfl
      rw [labelsAfter, labelsAfter, hcondition, Located.char_moved, ih (some place.char)]
      cases if allowsWord previous then labelAt? (place :: rest) else none <;> rfl
  | @widen blank filler rest rest' before isBlank added others ih =>
      have hmoved : isPlainBlank (blank.moved gap size).char = true := isBlank
      rw [labelsAfter_blank isBlank, labelsAfter_blank hmoved,
        labelsAfter_blanks fun place hplace => (added place hplace).1]
      exact ih none

/-! ### Braces -/

/-- Blanks leave the nesting depth as it is. -/
theorem depthStep_blank
    {c : Char}
    (h : isPlainBlank c = true) :
    depthStep c = 0 := by
  have hopen := ne_of_isPlainBlank h (d := '{') (by decide)
  have hclose := ne_of_isPlainBlank h (d := '}') (by decide)
  rw [depthStep, if_neg hopen, if_neg hclose]

theorem depthOf_blanks
    {filler : List Located}
    (hfiller : ∀ place ∈ filler, isPlainBlank place.char = true) :
    depthOf filler = 0 := by
  induction filler with
  | nil =>
      rfl
  | cons blank filler ih =>
      rw [depthOf, depthStep_blank (hfiller blank List.mem_cons_self), ih]
      · rfl
      · exact fun place hplace => hfiller place (List.mem_cons_of_mem _ hplace)

/-- **The nesting depth stays what it is.** -/
theorem depthOf_eq
    (h : Widened gap size places places') :
    depthOf places' = depthOf places := by
  induction h with
  | nil =>
      rfl
  | keep apart others ih =>
      rw [depthOf, depthOf, ih, Located.char_moved]
  | widen before isBlank added others ih =>
      rw [depthOf, depthOf, depthOf_append, ih, Located.char_moved,
        depthOf_blanks fun place hplace => (added place hplace).1, zero_add]

theorem closingBrace?_blank
    {blank : Located}
    (hblank : isPlainBlank blank.char = true)
    (depth : Nat) (rest : List Located) :
    closingBrace? depth (blank :: rest) = closingBrace? depth rest := by
  have hopen := ne_of_isPlainBlank hblank (d := '{') (by decide)
  have hclose := ne_of_isPlainBlank hblank (d := '}') (by decide)
  rw [closingBrace?, if_neg hopen, if_neg hclose]

theorem closingBrace?_blanks
    {filler : List Located}
    (hfiller : ∀ place ∈ filler, isPlainBlank place.char = true)
    (depth : Nat) (rest : List Located) :
    closingBrace? depth (filler ++ rest) = closingBrace? depth rest := by
  induction filler with
  | nil =>
      rfl
  | cons blank filler ih =>
      rw [List.cons_append, closingBrace?_blank (hfiller blank List.mem_cons_self), ih]
      exact fun place hplace => hfiller place (List.mem_cons_of_mem _ hplace)

/-- **The closing brace moves along.** -/
theorem closingBrace?_eq
    (h : Widened gap size places places')
    (depth : Nat) :
    closingBrace? depth places' = (closingBrace? depth places).map (Snippet.moved gap size) := by
  induction h generalizing depth with
  | nil =>
      rfl
  | @keep place rest rest' apart others ih =>
      rw [closingBrace?, closingBrace?, ih, ih, ih, Located.char_moved, Located.offset_moved]
      split
      · rfl
      · split
        · split <;> rfl
        · rfl
  | @widen blank filler rest rest' before isBlank added others ih =>
      have hmoved : isPlainBlank (blank.moved gap size).char = true := isBlank
      rw [closingBrace?_blank isBlank, closingBrace?_blank hmoved,
        closingBrace?_blanks fun place hplace => (added place hplace).1]
      exact ih depth

end Widened

end Snippet
end EpaperLayout
