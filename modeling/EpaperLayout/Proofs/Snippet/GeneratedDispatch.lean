import EpaperLayout.Proofs.Snippet.MarkedRoutine

/-!
# The dispatch of a routine

In the routine of a device the dispatch is the one that was written, its block
closes at the end of the routine, and its labels are those of the pages: what
comes before it is a comment, and the branches of the pages are quiet and
balanced.

**Input.**  A device with the lines for its widgets, and the number of the first
line of its routine.

**Results.**
* `dispatch?_routineOf`: the dispatch is found.
* `matchingBrace?_routineOf`: its block closes at the end.
* `branchLabels_routineOf`: there is one label for each page, in the same order.
-/

namespace EpaperLayout
namespace Snippet

variable (marking : Marking)

section Definitions

/-- The routine of a device, with lines that count from the given number. -/
def Marking.routineOf (device : Device) (firstLine : Nat) : Lambda :=
  (Lambda.ofText (marking.routineText device)).startingAt firstLine

/-- What is left of the marker of the device. -/
def maskedHead (device : Device) : List Char :=
  (Fragment.comment (markerBody .device (deviceFields device))).masked

/-- What is left of a page. -/
def Marking.maskedPage (page : Page) : List Char :=
  (marking.pageFragments page).flatMap Fragment.masked

/-- The dispatch of the routine of a device. -/
def dispatchOf (device : Device) : Dispatch where
  start := Text.byteSize (maskedHead device)
  opening := Text.byteSize (maskedHead device) + 26

/-- The place of the first page. -/
def pagesStart (device : Device) : Nat :=
  Text.byteSize (maskedHead device) + 28

/-- The place of the brace that closes the dispatch. -/
def Marking.closingOf (device : Device) : Nat :=
  pagesStart device + Text.byteSize (device.pages.flatMap marking.maskedPage)

/-- The label of a page whose text begins at an offset. -/
def labelOf (offset : Nat) (page : Page) : Label where
  digits := some (Nat.toDigits 10 page.ordinal.toNat)
  start := offset + 2
  stop := offset + 8 + (Nat.toDigits 10 page.ordinal.toNat).length

/-- The labels of pages whose texts begin at an offset. -/
def Marking.labelsOf (offset : Nat) : List Page → List Label
  | [] => []
  | page :: rest =>
    labelOf offset page :: labelsOf (offset + Text.byteSize (marking.maskedPage page)) rest

end Definitions

section Masked

theorem maskedPage_eq (page : Page) :
    marking.maskedPage page =
      ' ' :: ' ' :: ("case ".toList ++ Nat.toDigits 10 page.ordinal.toNat ++ ": \x7b\n".toList
        ++ (marking.bodyFragments page).flatMap Fragment.masked ++ "  \x7d\n".toList) := by
  rw [Marking.maskedPage, Marking.pageFragments, List.flatMap_cons, List.flatMap_append,
    List.flatMap_singleton, masked_code, masked_code]
  simp

theorem masked_routineOf (device : Device) (firstLine : Nat) :
    (marking.routineOf device firstLine).masked =
      maskedHead device ++ dispatchOpening.toList ++
        '\n' :: (device.pages.flatMap marking.maskedPage ++ ['}']) := by
  have hpages : (device.pages.flatMap marking.pageFragments).flatMap Fragment.masked =
      device.pages.flatMap marking.maskedPage :=
    List.flatMap_assoc
  change (Lambda.ofText (marking.routineText device)).masked = _
  rw [marking.masked_routineText, Marking.routineFragments, List.flatMap_append,
    List.flatMap_append, hpages]
  simp [maskedHead]

end Masked

section Ranges

/-- The places of a text from the end of its first part on. -/
theorem dropWhile_locate_append (offset : Nat) (first second : List Char) :
    (locate offset (first ++ second)).dropWhile
        (fun place => place.offset < offset + Text.byteSize first) =
      locate (offset + Text.byteSize first) second := by
  have hfirst : ∀ place ∈ locate offset first,
      decide (place.offset < offset + Text.byteSize first) = true := by
    intro place hplace
    rw [decide_eq_true_eq]
    exact (bounds_of_mem_locate hplace).2
  rw [locate_append, List.dropWhile_append_of_pos hfirst]
  cases second with
  | nil =>
      rfl
  | cons c rest =>
      rw [locate, List.dropWhile_cons_of_neg]
      simp

/-- The places in the middle part of a text. -/
theorem codeIn_eq_locate
    {lambda : Lambda} {first middle last : List Char}
    (h : lambda.masked = first ++ middle ++ last) :
    lambda.codeIn (Text.byteSize first) (Text.byteSize first + Text.byteSize middle) =
      locate (Text.byteSize first) middle := by
  rw [Lambda.codeIn, Lambda.code, h, locate_append, locate_append, List.filter_append,
    List.filter_append, Nat.zero_add, Text.byteSize_append]
  have hfirst : (locate 0 first).filter (fun place =>
      Text.byteSize first ≤ place.offset &&
        place.offset < Text.byteSize first + Text.byteSize middle) = [] := by
    rw [List.filter_eq_nil_iff]
    intro place hplace
    have hbounds := bounds_of_mem_locate hplace
    simp only [Bool.and_eq_true, decide_eq_true_eq, not_and]
    omega
  have hmiddle : (locate (Text.byteSize first) middle).filter (fun place =>
      Text.byteSize first ≤ place.offset &&
        place.offset < Text.byteSize first + Text.byteSize middle) =
      locate (Text.byteSize first) middle := by
    rw [List.filter_eq_self]
    intro place hplace
    have hbounds := bounds_of_mem_locate hplace
    simp only [Bool.and_eq_true, decide_eq_true_eq]
    exact hbounds
  have hlast : (locate (0 + (Text.byteSize first + Text.byteSize middle)) last).filter
      (fun place => Text.byteSize first ≤ place.offset &&
        place.offset < Text.byteSize first + Text.byteSize middle) = [] := by
    rw [List.filter_eq_nil_iff]
    intro place hplace
    have hbounds := bounds_of_mem_locate hplace
    simp only [Bool.and_eq_true, decide_eq_true_eq, not_and]
    omega
  rw [hfirst, hmiddle, hlast, List.nil_append, List.append_nil]

end Ranges

section Search

/-- The search for a dispatch goes on behind characters that begin none. -/
theorem findDispatch?_append
    {cs : List Char}
    (h : ∀ c ∈ cs, c ≠ 's')
    (last : Char)
    (hlast : last ≠ 's')
    (previous : Option Char)
    (offset : Nat)
    (rest : List Char) :
    findDispatch? previous (locate offset (cs ++ last :: rest)) =
      findDispatch? (some last)
        (locate (offset + Text.byteSize cs + last.utf8Size) rest) := by
  have hnone : ∀ (c : Char) (cs : List Char) (offset : Nat), c ≠ 's' →
      dispatchBrace? (locate offset (c :: cs)) = none := by
    intro c cs offset hc
    have hword : afterWord? "switch".toList (locate offset (c :: cs)) = none := by
      change afterWord? ('s' :: "witch".toList) _ = none
      rw [locate, afterWord?, if_neg hc]
    rw [dispatchBrace?, hword]
    rfl
  have hstep : ∀ (c : Char) (cs : List Char) (previous : Option Char) (offset : Nat), c ≠ 's' →
      findDispatch? previous (locate offset (c :: cs)) =
        findDispatch? (some c) (locate (offset + c.utf8Size) cs) := by
    intro c cs previous offset hc
    have hbrace := hnone c cs offset hc
    rw [locate] at hbrace ⊢
    rw [findDispatch?, hbrace, ite_self]
  induction cs generalizing previous offset with
  | nil =>
      rw [List.nil_append, hstep _ _ _ _ hlast, Text.byteSize_nil, Nat.add_zero]
  | cons c cs ih =>
      rw [List.cons_append, hstep _ _ _ _ (h c List.mem_cons_self),
        ih fun d hd => h d (List.mem_cons_of_mem _ hd), Text.byteSize_cons, Nat.add_assoc offset]

theorem dispatchBrace?_dispatchOpening (offset : Nat) (rest : List Char) :
    dispatchBrace? (locate offset (dispatchOpening.toList ++ rest)) = some (offset + 26) := by
  rfl

theorem maskedHead_eq (device : Device) :
    maskedHead device =
      List.replicate (Text.byteSize (markerBody .device (deviceFields device)) + 2) ' ' ++
        ['\n'] :=
  masked_comment (newline_notMem_markerBody .device (sound_deviceFields device))

/-- **The dispatch is found.** -/
theorem dispatch?_routineOf (device : Device) (firstLine : Nat) :
    (marking.routineOf device firstLine).dispatch? = some (dispatchOf device) := by
  let rest := '\n' :: (device.pages.flatMap marking.maskedPage ++ ['}'])
  have hblanks : ∀ c ∈ List.replicate
      (Text.byteSize (markerBody .device (deviceFields device)) + 2) ' ', c ≠ 's' := by
    intro c hc
    rw [List.eq_of_mem_replicate hc]
    decide
  have hhead :
      findDispatch? none (locate 0 (maskedHead device ++ (dispatchOpening.toList ++ rest))) =
        findDispatch? (some '\n')
          (locate (Text.byteSize (maskedHead device)) (dispatchOpening.toList ++ rest)) := by
    rw [maskedHead_eq, List.append_assoc, List.singleton_append,
      findDispatch?_append hblanks _ (by decide), Nat.zero_add, Text.byteSize_append]
    rfl
  have hbrace := dispatchBrace?_dispatchOpening (Text.byteSize (maskedHead device)) rest
  rw [Lambda.dispatch?, Lambda.code, masked_routineOf marking, List.append_assoc, hhead]
  obtain ⟨places, hplaces⟩ : ∃ places,
      locate (Text.byteSize (maskedHead device)) (dispatchOpening.toList ++ rest) =
        ⟨Text.byteSize (maskedHead device), 's'⟩ :: places :=
    ⟨_, rfl⟩
  rw [hplaces] at hbrace ⊢
  rw [findDispatch?, hbrace]
  rfl

end Search

section Closing

theorem noBraces_label (page : Page) :
    ∀ c ∈ ' ' :: ' ' :: ("case ".toList ++ Nat.toDigits 10 page.ordinal.toNat ++ ": ".toList),
      c ≠ '{' ∧ c ≠ '}' := by
  have hcase : ∀ c ∈ "case ".toList, c ≠ '{' ∧ c ≠ '}' := by decide
  have hcolon : ∀ c ∈ ": ".toList, c ≠ '{' ∧ c ≠ '}' := by decide
  rw [List.forall_mem_cons, List.forall_mem_cons, List.forall_mem_append, List.forall_mem_append]
  exact ⟨by decide, by decide, ⟨hcase, (quiet_toDigits _).braces⟩, hcolon⟩

/-- A page opens and closes one block. -/
theorem exists_maskedPage_eq (page : Page) :
    ∃ first middle : List Char, marking.maskedPage page = first ++ '{' :: (middle ++ ['}', '\n']) ∧
      (∀ c ∈ first, c ≠ '{' ∧ c ≠ '}') ∧ ∀ c ∈ middle, c ≠ '{' ∧ c ≠ '}' := by
  refine ⟨_, '\n' :: ((marking.bodyFragments page).flatMap Fragment.masked ++ [' ', ' ']), ?_,
    noBraces_label page, ?_⟩
  · rw [maskedPage_eq marking]
    simp
  · have hblanks : ∀ c ∈ [' ', ' '], c ≠ '{' ∧ c ≠ '}' := by decide
    rw [List.forall_mem_cons, List.forall_mem_append]
    exact ⟨by decide, (marking.quiet_bodyFragments page).braces, hblanks⟩

/-- A page leaves the nesting depth as it is. -/
theorem depthOf_maskedPage (offset : Nat) (page : Page) :
    depthOf (locate offset (marking.maskedPage page)) = 0 := by
  obtain ⟨first, middle, heq, hfirst, hmiddle⟩ := exists_maskedPage_eq marking page
  rw [heq, locate_append, depthOf_append, depthOf_locate_eq_zero hfirst, locate, depthOf,
    locate_append, depthOf_append, depthOf_locate_eq_zero hmiddle]
  rfl

/-- The search for a closing brace goes on behind a page. -/
theorem closingBrace?_maskedPage
    (depth offset : Nat)
    (page : Page)
    (rest : List Char) :
    closingBrace? (depth + 1) (locate offset (marking.maskedPage page ++ rest)) =
      closingBrace? (depth + 1) (locate (offset + Text.byteSize (marking.maskedPage page)) rest) := by
  obtain ⟨first, middle, heq, hfirst, hmiddle⟩ := exists_maskedPage_eq marking page
  have hopen : ∀ (offset : Nat) (cs : List Char),
      closingBrace? (depth + 1) (locate offset ('{' :: cs)) =
        closingBrace? (depth + 2) (locate (offset + 1) cs) := by
    intro offset cs
    rfl
  have hclose : ∀ (offset : Nat) (cs : List Char),
      closingBrace? (depth + 2) (locate offset ('}' :: '\n' :: cs)) =
        closingBrace? (depth + 1) (locate (offset + 2) cs) := by
    intro offset cs
    rfl
  have hsize : Text.byteSize (marking.maskedPage page) =
      Text.byteSize first + 1 + Text.byteSize middle + 2 := by
    have hbrace : '{'.utf8Size = 1 := by decide
    have hend : Text.byteSize ['}', '\n'] = 2 := by decide
    rw [heq, Text.byteSize_append, Text.byteSize_cons, Text.byteSize_append, hbrace, hend]
    omega
  have hplace : offset + Text.byteSize first + 1 + Text.byteSize middle + 2 =
      offset + Text.byteSize (marking.maskedPage page) := by
    omega
  rw [← hplace, heq, List.append_assoc, closingBrace?_append hfirst, List.cons_append, hopen,
    List.append_assoc, closingBrace?_append hmiddle, List.cons_append, List.singleton_append,
    hclose]

/-- The block of the dispatch closes behind its pages. -/
theorem closingBrace?_maskedPages (offset : Nat) (pages : List Page) :
    closingBrace? 1 (locate offset (pages.flatMap marking.maskedPage ++ ['}'])) =
      some (offset + Text.byteSize (pages.flatMap marking.maskedPage)) := by
  induction pages generalizing offset with
  | nil =>
      rfl
  | cons page rest ih =>
      rw [List.flatMap_cons, List.append_assoc, closingBrace?_maskedPage marking 0, ih,
        Text.byteSize_append, Nat.add_assoc]

/-- The head of a dispatch without its brace. -/
def dispatchHead : List Char :=
  "switch (id(display_page)) ".toList

theorem dispatchOpening_eq : dispatchOpening.toList = dispatchHead ++ ['{'] := by
  decide

theorem byteSize_dispatchHead (device : Device) :
    Text.byteSize (maskedHead device ++ dispatchHead) = (dispatchOf device).opening := by
  have hsize : Text.byteSize dispatchHead = 26 := by decide
  rw [Text.byteSize_append, hsize, dispatchOf]

/-- **The block of the dispatch closes at the end of the routine.** -/
theorem matchingBrace?_routineOf (device : Device) (firstLine : Nat) :
    (marking.routineOf device firstLine).matchingBrace? (dispatchOf device).opening =
      some (marking.closingOf device) := by
  have hcode : (marking.routineOf device firstLine).code.dropWhile
        (fun place => place.offset < (dispatchOf device).opening) =
      locate (dispatchOf device).opening
        ('{' :: '\n' :: (device.pages.flatMap marking.maskedPage ++ ['}'])) := by
    have hdrop := dropWhile_locate_append 0 (maskedHead device ++ dispatchHead)
      ('{' :: '\n' :: (device.pages.flatMap marking.maskedPage ++ ['}']))
    rw [byteSize_dispatchHead, Nat.zero_add] at hdrop
    rw [Lambda.code, masked_routineOf marking, dispatchOpening_eq]
    simpa using hdrop
  have hfeed : ∀ c ∈ ['\n'], c ≠ '{' ∧ c ≠ '}' := by decide
  have hsize : Text.byteSize ['\n'] = 1 := by decide
  have hbrace : '{'.utf8Size = 1 := by decide
  have hclosing := closingBrace?_append hfeed 1 ((dispatchOf device).opening + 1)
    (device.pages.flatMap marking.maskedPage ++ ['}'])
  rw [closingBrace?_maskedPages marking, hsize] at hclosing
  rw [Lambda.matchingBrace?, hcode, locate, hbrace]
  simp only [true_and, if_true]
  exact hclosing

end Closing

section Labels

theorem map_char_locate (offset : Nat) (cs : List Char) :
    (locate offset cs).map Located.char = cs := by
  induction cs generalizing offset with
  | nil =>
      rfl
  | cons c cs ih =>
      rw [locate, List.map_cons, ih]

theorem drop_locate_append (offset : Nat) (first second : List Char) :
    (locate offset (first ++ second)).drop first.length =
      locate (offset + Text.byteSize first) second := by
  have hlength : (locate offset first).length = first.length := by
    rw [← List.length_map Located.char, map_char_locate]
  rw [locate_append, ← hlength, List.drop_left]

/-- The label of a page is read where it was written. -/
theorem labelAt?_case (offset n : Nat) (rest : List Char) :
    labelAt? (locate offset ("case ".toList ++ (Nat.toDigits 10 n ++ ':' :: rest))) =
      some {
        digits := some (Nat.toDigits 10 n)
        start := offset
        stop := offset + 6 + (Nat.toDigits 10 n).length } := by
  have hany : ∀ place ∈ locate (offset + 5) (Nat.toDigits 10 n),
      Text.isAnyDigit place.char = true := by
    intro place hplace
    have hmem : place.char ∈ Nat.toDigits 10 n := by
      rw [← map_char_locate (offset + 5) (Nat.toDigits 10 n)]
      exact List.mem_map_of_mem hplace
    exact Text.isAnyDigit_of_isDigit (Text.isDigit_of_mem_toDigits hmem)
  have hskip : skipBlanks (locate (offset + 5) (Nat.toDigits 10 n ++ ':' :: rest)) =
      locate (offset + 5) (Nat.toDigits 10 n ++ ':' :: rest) := by
    obtain ⟨c, cs, heq, hdigit⟩ := Text.exists_digit_cons_eq_toDigits n
    have hblank : Text.isBlank c = false :=
      isBlank_of_isIdentifierChar (Or.inl (isIdentifierChar_of_isDigit hdigit))
    rw [heq, List.cons_append, locate, skipBlanks, List.dropWhile_cons_of_neg]
    rw [hblank]
    exact Bool.false_ne_true
  have hnumber : ((locate (offset + 5) (Nat.toDigits 10 n ++ ':' :: rest)).takeWhile
      fun place => Text.isAnyDigit place.char).map Located.char = Nat.toDigits 10 n := by
    rw [locate_append, List.takeWhile_append_of_pos hany, locate, List.takeWhile_cons_of_neg,
      List.append_nil, map_char_locate]
    exact Bool.false_ne_true
  have hcolon : afterColon? (locate (offset + 5 + (Nat.toDigits 10 n).length) (':' :: rest)) =
      some (offset + 6 + (Nat.toDigits 10 n).length) := by
    rw [Nat.add_right_comm offset 5, Nat.add_right_comm offset 6]
    rfl
  have hpage : pageLabel? (locate offset ("case ".toList ++ (Nat.toDigits 10 n ++ ':' :: rest))) =
      some (Nat.toDigits 10 n, offset + 6 + (Nat.toDigits 10 n).length) := by
    have hword : afterWord? "case".toList
        (locate offset ("case ".toList ++ (Nat.toDigits 10 n ++ ':' :: rest))) =
          some (⟨offset + 4, ' '⟩ :: locate (offset + 5) (Nat.toDigits 10 n ++ ':' :: rest)) := by
      rfl
    have hempty : (Nat.toDigits 10 n).isEmpty = false := by
      simp [List.isEmpty_eq_false_iff]
    rw [pageLabel?, hword]
    have hblank : Text.isBlank ' ' = true := by decide
    simp only [hblank, if_true, hskip, hnumber, hempty, Bool.false_eq_true, if_false,
      drop_locate_append, Text.byteSize_toDigits, hcolon, Option.map_some]
  obtain ⟨places, hplaces⟩ : ∃ places,
      locate offset ("case ".toList ++ (Nat.toDigits 10 n ++ ':' :: rest)) =
        ⟨offset, 'c'⟩ :: places :=
    ⟨_, rfl⟩
  rw [hplaces] at hpage ⊢
  rw [labelAt?, hpage]

/-- No label begins at a blank. -/
theorem labelsAfter_blank (previous : Option Char) (offset : Nat) (cs : List Char) :
    labelsAfter previous (locate offset (' ' :: cs)) =
      labelsAfter (some ' ') (locate (offset + 1) cs) := by
  refine labelsAfter_cons_of_none ?_
  intro _
  exact labelAt?_eq_none_of_head (by decide) (by decide) offset cs

/-- No label begins behind the first character of the opening of a branch. -/
theorem ne_of_mem_branchOpening
    {number : Nat} {c : Char}
    (h : c ∈ "ase ".toList ++ (Nat.toDigits 10 number ++ ": \x7b\n".toList)) :
    c ≠ 'c' ∧ c ≠ 'd' := by
  have hcase : ∀ c ∈ "ase ".toList, c ≠ 'c' ∧ c ≠ 'd' := by decide
  have hopen : ∀ c ∈ ": \x7b\n".toList, c ≠ 'c' ∧ c ≠ 'd' := by decide
  rw [List.mem_append, List.mem_append] at h
  rcases h with h | h | h
  · exact hcase c h
  · have hdigit := Text.isDigit_of_mem_toDigits h
    constructor
    · rintro rfl
      cases hdigit
    · rintro rfl
      cases hdigit
  · exact hopen c h

/-- The search for labels finds the label of a page and goes on behind the page. -/
theorem exists_labelsAfter_maskedPage (previous : Option Char) (page : Page) :
    ∃ previous', ∀ offset rest,
      labelsAfter previous (locate offset (marking.maskedPage page ++ rest)) =
        labelOf offset page ::
          labelsAfter previous' (locate (offset + Text.byteSize (marking.maskedPage page)) rest) := by
  have hclose : ∀ c ∈ "  \x7d\n".toList, c ≠ 'c' ∧ c ≠ 'd' := by decide
  have hmasked := maskedPage_eq marking page
  have hcase := fun offset => labelAt?_case offset page.ordinal.toNat
  have hword : ∀ c ∈ "ase ".toList ++
      (Nat.toDigits 10 page.ordinal.toNat ++ ": \x7b\n".toList), c ≠ 'c' ∧ c ≠ 'd' :=
    fun _ => ne_of_mem_branchOpening
  -- the number with what follows it, and the text behind it
  generalize hnumbered : Nat.toDigits 10 page.ordinal.toNat ++ ": \x7b\n".toList = numbered
    at hword
  have hbody := (marking.quiet_bodyFragments page).labels
  generalize (marking.bodyFragments page).flatMap Fragment.masked = body at hmasked hbody
  obtain ⟨first, hfirst⟩ := exists_labelsAfter_append hword (some 'c')
  obtain ⟨middle, hmiddle⟩ := hbody first
  obtain ⟨last, hlast⟩ := exists_labelsAfter_append hclose middle
  rw [List.append_assoc "case ".toList, hnumbered] at hmasked
  refine ⟨last, ?_⟩
  intro offset rest
  have hpage : marking.maskedPage page ++ rest =
      ' ' :: ' ' :: ("case ".toList ++ (numbered ++ (body ++ ("  \x7d\n".toList ++ rest)))) := by
    rw [hmasked]
    simp only [List.cons_append, List.append_assoc]
  have hlabel : labelAt? (locate (offset + 2)
      ("case ".toList ++ (numbered ++ (body ++ ("  \x7d\n".toList ++ rest))))) =
        some (labelOf offset page) := by
    have hread := hcase (offset + 2) (" \x7b\n".toList ++ (body ++ ("  \x7d\n".toList ++ rest)))
    rw [← hnumbered, List.append_assoc (Nat.toDigits 10 page.ordinal.toNat)]
    exact hread
  have hplaces : locate (offset + 2)
        ("case ".toList ++ (numbered ++ (body ++ ("  \x7d\n".toList ++ rest)))) =
      ⟨offset + 2, 'c'⟩ :: locate (offset + 3)
        ("ase ".toList ++ numbered ++ (body ++ ("  \x7d\n".toList ++ rest))) := by
    rw [List.append_assoc "ase ".toList]
    rfl
  have hsize : offset + 3 + Text.byteSize ("ase ".toList ++ numbered) + Text.byteSize body
        + Text.byteSize "  \x7d\n".toList =
      offset + Text.byteSize (marking.maskedPage page) := by
    have hblanks : Text.byteSize (' ' :: ' ' :: "case ".toList) =
        3 + Text.byteSize "ase ".toList := by
      decide
    rw [hmasked, ← List.cons_append, ← List.cons_append, ← List.cons_append, ← List.cons_append,
      ← List.cons_append, ← List.cons_append]
    simp only [Text.byteSize_append, hblanks]
    omega
  rw [hpage, labelsAfter_blank, labelsAfter_blank, hplaces, labelsAfter, ← hplaces, hlabel,
    hfirst, hmiddle, hlast, hsize]
  rfl

/-- The labels of pages are those that were written. -/
theorem labelsAfter_maskedPages (previous : Option Char) (offset : Nat) (pages : List Page) :
    labelsAfter previous (locate offset (pages.flatMap marking.maskedPage)) =
      marking.labelsOf offset pages := by
  induction pages generalizing previous offset with
  | nil =>
      rfl
  | cons page rest ih =>
      obtain ⟨previous', hprevious'⟩ := exists_labelsAfter_maskedPage marking previous page
      rw [List.flatMap_cons, hprevious', ih, Marking.labelsOf]

/-- A label stands in its page, behind the pages before it. -/
theorem exists_split_of_mem_labelsOf
    {offset : Nat} {pages : List Page} {label : Label}
    (h : label ∈ marking.labelsOf offset pages) :
    ∃ before page after, pages = before ++ page :: after ∧
      label = labelOf (offset + Text.byteSize (before.flatMap marking.maskedPage)) page := by
  induction pages generalizing offset with
  | nil =>
      cases h
  | cons page rest ih =>
      rcases List.mem_cons.mp h with rfl | h
      · exact ⟨[], page, rest, rfl, rfl⟩
      · obtain ⟨before, other, after, rfl, rfl⟩ := ih h
        refine ⟨page :: before, other, after, rfl, ?_⟩
        rw [List.flatMap_cons, Text.byteSize_append, Nat.add_assoc]

/-- Pages leave the nesting depth as it is. -/
theorem depthOf_maskedPages (offset : Nat) (pages : List Page) :
    depthOf (locate offset (pages.flatMap marking.maskedPage)) = 0 := by
  induction pages generalizing offset with
  | nil =>
      rfl
  | cons page rest ih =>
      rw [List.flatMap_cons, locate_append, depthOf_append, depthOf_maskedPage marking, ih]
      rfl

/-- The code of the dispatch from its opening brace up to some place in its pages. -/
theorem codeIn_routineOf
    {device : Device} {middle last : List Char}
    (firstLine : Nat)
    (h : device.pages.flatMap marking.maskedPage ++ ['}'] = middle ++ last) :
    (marking.routineOf device firstLine).codeIn ((dispatchOf device).opening + 1)
        (pagesStart device + Text.byteSize middle) =
      locate ((dispatchOf device).opening + 1) ('\n' :: middle) := by
  have hsize : Text.byteSize (maskedHead device ++ dispatchOpening.toList) =
      (dispatchOf device).opening + 1 := by
    have hbrace : Text.byteSize ['{'] = 1 := by decide
    rw [dispatchOpening_eq, ← List.append_assoc, Text.byteSize_append, byteSize_dispatchHead,
      hbrace]
  have hfeed : Text.byteSize ['\n'] = 1 := by decide
  have hmasked : (marking.routineOf device firstLine).masked =
      (maskedHead device ++ dispatchOpening.toList) ++ ('\n' :: middle) ++ last := by
    rw [masked_routineOf marking, h]
    simp
  have hcode := codeIn_eq_locate hmasked
  rw [hsize, ← List.singleton_append, Text.byteSize_append, hfeed, ← Nat.add_assoc] at hcode
  exact hcode

theorem labelsIn_routineOf (device : Device) (firstLine : Nat) :
    (marking.routineOf device firstLine).labelsIn ((dispatchOf device).opening + 1)
        (marking.closingOf device) =
      marking.labelsOf (pagesStart device) device.pages := by
  have hfeed : '\n'.utf8Size = 1 := by decide
  have hplace : (dispatchOf device).opening + 1 + 1 = pagesStart device := by
    rw [dispatchOf, pagesStart]
  rw [Lambda.labelsIn, Marking.closingOf, codeIn_routineOf marking firstLine rfl,
    labelsAfter_cons_of_none, hfeed, hplace, labelsAfter_maskedPages marking]
  intro _
  exact labelAt?_eq_none_of_head (by decide) (by decide) _ _

/-- **There is one label for each page, in the same order.** -/
theorem branchLabels_routineOf (device : Device) (firstLine : Nat) :
    (marking.routineOf device firstLine).branchLabels ((dispatchOf device).opening + 1)
        (marking.closingOf device) =
      marking.labelsOf (pagesStart device) device.pages := by
  rw [Lambda.branchLabels, labelsIn_routineOf marking, List.filter_eq_self]
  intro label hlabel
  obtain ⟨before, page, after, hpages, rfl⟩ := exists_split_of_mem_labelsOf marking hlabel
  obtain ⟨rest, hrest⟩ : ∃ rest, marking.maskedPage page = ' ' :: ' ' :: rest :=
    ⟨_, maskedPage_eq marking page⟩
  have hsplit : device.pages.flatMap marking.maskedPage ++ ['}'] =
      (before.flatMap marking.maskedPage ++ [' ', ' ']) ++
        (rest ++ after.flatMap marking.maskedPage ++ ['}']) := by
    rw [hpages, List.flatMap_append, List.flatMap_cons, hrest]
    simp
  have hblanks : ∀ c ∈ [' ', ' '], c ≠ '{' ∧ c ≠ '}' := by decide
  have hfeed : ∀ c ∈ ['\n'], c ≠ '{' ∧ c ≠ '}' := by decide
  have hsize : Text.byteSize [' ', ' '] = 2 := by decide
  have hcode := codeIn_routineOf marking firstLine hsplit
  rw [Text.byteSize_append, hsize, ← Nat.add_assoc] at hcode
  rw [decide_eq_true_eq, Lambda.depthChange, labelOf, hcode, ← List.singleton_append,
    locate_append, locate_append, depthOf_append, depthOf_append, depthOf_locate_eq_zero hfeed,
    depthOf_maskedPages marking, depthOf_locate_eq_zero hblanks]
  rfl

end Labels

end Snippet
end EpaperLayout
