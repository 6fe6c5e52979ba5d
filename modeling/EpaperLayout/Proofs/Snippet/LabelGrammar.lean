import EpaperLayout.Proofs.Snippet.WidenedCode
import Mathlib.Data.List.TakeWhile

/-!
# The grammar of labels

A label of a dispatch has one of two texts.  A page label is the word `case`, at
least one blank, the digits of a number, and a colon; the label of all other pages
is the word `default` and a colon.  Blanks may stand before the colon, and no word
character before the label.

**Grammar.**
* `IsLabelText`: the texts of labels, with the digits of their numbers.
* `Label.StandsIn`: a label stands in places of the code.

**Results.**
* `labelAt?_eq_some_iff`: a label is read where the places begin with its text.
* `mem_labelsAfter_iff_standsIn`: the labels that are found are those that stand in
  the places.
* `pairwise_stop_labelsAfter`: labels do not overlap, since neither first letter
  occurs again in the text of a label.
-/

namespace EpaperLayout
namespace Text

/-- No decimal digit of any script is a blank. -/
theorem isAnyDigit_eq_false_of_isBlank
    {c : Char}
    (h : isBlank c = true) :
    isAnyDigit c = false := by
  -- between the blanks U+2000 and U+3000 there is no digit at all
  have htable : ∀ interval ∈ digitTable, 0xA0 < interval.1 ∧
      (interval.2 < 0x1680 ∨ 0x1680 < interval.1) ∧
      (interval.2 < 0x2000 ∨ 0x3000 < interval.1) := by
    decide
  simp only [isBlank, Bool.or_eq_true, Bool.and_eq_true, decide_eq_true_eq, beq_iff_eq] at h
  rw [isAnyDigit]
  split
  · by_contra hdigit
    rw [Bool.not_eq_false, isDigit, Bool.and_eq_true, decide_eq_true_eq, decide_eq_true_eq,
      Char.le_def, Char.le_def] at hdigit
    obtain ⟨hlow, hhigh⟩ := hdigit
    change 48 ≤ c.toNat at hlow
    change c.toNat ≤ 57 at hhigh
    omega
  · by_contra hdigit
    rw [Bool.not_eq_false, inTable_iff] at hdigit
    obtain ⟨interval, hmem, hlow, hhigh⟩ := hdigit
    obtain ⟨hlatin, hogham, hspaces⟩ := htable interval hmem
    omega

end Text

namespace Snippet

/-- The text of a label with the digits of its number. -/
inductive IsLabelText : Option (List Char) → List Char → Prop
  | page {between digits gap : List Char}
      (separated : between ≠ [])
      (blanks : ∀ c ∈ between ++ gap, Text.isBlank c = true)
      (numbered : digits ≠ [])
      (number : ∀ c ∈ digits, Text.isAnyDigit c = true) :
      IsLabelText (some digits) ("case".toList ++ between ++ digits ++ gap ++ [':'])
  | others {gap : List Char}
      (blanks : ∀ c ∈ gap, Text.isBlank c = true) :
      IsLabelText none ("default".toList ++ gap ++ [':'])

namespace IsLabelText

variable {digits : Option (List Char)} {cs : List Char}

/-- The first letter tells the two kinds of labels apart. -/
theorem head?_eq
    (h : IsLabelText digits cs) :
    cs.head? = some (if digits.isSome then 'c' else 'd') := by
  cases h with
  | page => rfl
  | others => rfl

theorem exists_cons
    {text : List Located}
    (h : IsLabelText digits (text.map Located.char)) :
    ∃ first others, text = first :: others ∧
      first.char = if digits.isSome then 'c' else 'd' := by
  have hhead := h.head?_eq
  cases text with
  | nil =>
      cases hhead
  | cons first others =>
      exact ⟨first, others, rfl, Option.some.inj hhead⟩

/-- The first letters of labels do not occur behind the beginning of a label. -/
theorem ne_of_mem_tail
    (h : IsLabelText digits cs)
    {c : Char}
    (hc : c ∈ cs.tail) :
    c ≠ 'c' ∧ c ≠ 'd' := by
  have hblank : Text.isBlank c = true → c ≠ 'c' ∧ c ≠ 'd' := by
    intro hblank
    constructor <;> rintro rfl <;> cases hblank
  have hdigit : Text.isAnyDigit c = true → c ≠ 'c' ∧ c ≠ 'd' := by
    intro hdigit
    constructor <;> rintro rfl <;> cases hdigit
  have hcolon : c = ':' → c ≠ 'c' ∧ c ≠ 'd' := by
    rintro rfl
    decide
  cases h with
  | @page between digits gap separated blanks numbered number =>
      have htail : c ∈ "ase".toList ++ between ++ digits ++ gap ++ [':'] := hc
      simp only [List.mem_append, List.mem_singleton] at htail
      rcases htail with (((hword | hbetween) | hnumber) | hgap) | hlast
      · have hletters : ∀ d ∈ "ase".toList, d ≠ 'c' ∧ d ≠ 'd' := by decide
        exact hletters c hword
      · exact hblank (blanks c (List.mem_append_left _ hbetween))
      · exact hdigit (number c hnumber)
      · exact hblank (blanks c (List.mem_append_right _ hgap))
      · exact hcolon hlast
  | @others gap blanks =>
      have htail : c ∈ "efault".toList ++ gap ++ [':'] := hc
      simp only [List.mem_append, List.mem_singleton] at htail
      rcases htail with (hword | hgap) | hlast
      · have hletters : ∀ d ∈ "efault".toList, d ≠ 'c' ∧ d ≠ 'd' := by decide
        exact hletters c hword
      · exact hblank (blanks c hgap)
      · exact hcolon hlast

end IsLabelText

namespace Label

/-- The places are the text of the label. -/
structure IsText (label : Label) (text : List Located) : Prop where
  grammar : IsLabelText label.digits (text.map Located.char)
  start : text.head?.map Located.offset = some label.start
  /-- The label ends behind its colon. -/
  stop : (text.getLast?.map fun colon => colon.offset + 1) = some label.stop

/-- The label stands in places that follow the character `previous`, and no word runs into it. -/
def StandsIn (label : Label) (previous : Option Char) (places : List Located) : Prop :=
  ∃ before text after, places = before ++ text ++ after ∧
    allowsWord ((before.getLast?.map Located.char).or previous) = true ∧ label.IsText text

end Label

section Reading

variable {places : List Located}

/-- A word is read exactly where the places spell it. -/
theorem afterWord?_eq_some_iff
    {word : List Char} {rest : List Located} :
    afterWord? word places = some rest ↔
      ∃ read, read.map Located.char = word ∧ places = read ++ rest := by
  induction word generalizing places with
  | nil =>
      rw [afterWord?, Option.some.injEq]
      constructor
      · rintro rfl
        exact ⟨[], rfl, rfl⟩
      · rintro ⟨read, hread, rfl⟩
        rw [List.map_eq_nil_iff.mp hread, List.nil_append]
  | cons c word ih =>
      cases places with
      | nil =>
          rw [afterWord?]
          constructor
          · intro h
            cases h
          · rintro ⟨read, hread, hplaces⟩
            rw [(List.append_eq_nil_iff.mp hplaces.symm).1] at hread
            cases hread
      | cons place others =>
          rw [afterWord?]
          constructor
          · intro h
            split at h
            · next hchar =>
              obtain ⟨read, hread, rfl⟩ := ih.mp h
              exact ⟨place :: read, by rw [List.map_cons, hchar, hread], rfl⟩
            · cases h
          · rintro ⟨read, hread, hplaces⟩
            obtain ⟨first, read, rfl⟩ := List.exists_cons_of_ne_nil
              (show read ≠ [] by rintro rfl; cases hread)
            obtain ⟨rfl, rfl⟩ := List.cons.inj hplaces
            obtain ⟨hchar, hword⟩ := List.cons.inj hread
            rw [if_pos hchar]
            exact ih.mpr ⟨read, hword, rfl⟩

/-- Only blanks are skipped. -/
theorem exists_eq_append_skipBlanks (places : List Located) :
    ∃ gap : List Located, (∀ blank ∈ gap, Text.isBlank blank.char = true) ∧
      places = gap ++ skipBlanks places := by
  refine ⟨places.takeWhile fun place => Text.isBlank place.char, ?_, ?_⟩
  · intro blank hblank
    exact (List.mem_takeWhile_imp hblank :)
  · exact List.takeWhile_append_dropWhile.symm

/-- What is left behind blanks begins with the first place that is no blank. -/
theorem skipBlanks_eq_cons_iff
    {place : Located} {rest : List Located} :
    skipBlanks places = place :: rest ↔
      Text.isBlank place.char = false ∧
        ∃ gap : List Located, (∀ blank ∈ gap, Text.isBlank blank.char = true) ∧
          places = gap ++ place :: rest := by
  constructor
  · intro h
    obtain ⟨gap, hgap, hplaces⟩ := exists_eq_append_skipBlanks places
    have hhead := List.head?_dropWhile_not (fun place : Located => Text.isBlank place.char) places
    rw [h] at hplaces
    rw [skipBlanks] at h
    rw [h] at hhead
    exact ⟨hhead, gap, hgap, hplaces⟩
  · rintro ⟨hplace, gap, hgap, rfl⟩
    rw [skipBlanks, List.dropWhile_append_of_pos hgap, List.dropWhile_cons_of_neg]
    rw [hplace]
    exact Bool.false_ne_true

/-- A colon is found exactly where it stands behind blanks. -/
theorem afterColon?_eq_some_iff
    {stop : Nat} :
    afterColon? places = some stop ↔
      ∃ gap colon rest, (∀ blank ∈ gap, Text.isBlank blank.char = true) ∧
        colon.char = ':' ∧ places = gap ++ colon :: rest ∧ stop = colon.offset + 1 := by
  have hcolon : Text.isBlank ':' = false := by decide
  rw [Widened.afterColon?_eq_bind, Option.bind_eq_some_iff]
  constructor
  · rintro ⟨place, hhead, hstop⟩
    obtain ⟨rest, hskip⟩ := List.head?_eq_some_iff.mp hhead
    obtain ⟨-, gap, hgap, hplaces⟩ := skipBlanks_eq_cons_iff.mp hskip
    split at hstop
    · next hchar =>
      exact ⟨gap, place, rest, hgap, hchar, hplaces, (Option.some.inj hstop).symm⟩
    · cases hstop
  · rintro ⟨gap, colon, rest, hgap, hchar, hplaces, rfl⟩
    have hskip : skipBlanks places = colon :: rest :=
      skipBlanks_eq_cons_iff.mpr ⟨by rw [hchar, hcolon], gap, hgap, hplaces⟩
    exact ⟨colon, by rw [hskip, List.head?_cons], if_pos hchar⟩

/-- Where a colon is found, no digit comes first. -/
theorem takeWhile_isAnyDigit_of_afterColon?
    {stop : Nat}
    (h : afterColon? places = some stop) :
    places.takeWhile (fun place => Text.isAnyDigit place.char) = [] := by
  obtain ⟨gap, colon, rest, hgap, hchar, rfl, -⟩ := afterColon?_eq_some_iff.mp h
  cases gap with
  | nil =>
      rw [List.nil_append, List.takeWhile_cons_of_neg]
      rw [hchar]
      decide
  | cons blank gap =>
      rw [List.cons_append, List.takeWhile_cons_of_neg]
      rw [Text.isAnyDigit_eq_false_of_isBlank (hgap blank List.mem_cons_self)]
      exact Bool.false_ne_true

/-- The number of a label is read exactly where digits stand before a colon. -/
theorem numberLabel?_eq_some_iff
    {digits : List Char} {stop : Nat} :
    Widened.numberLabel? places = some (digits, stop) ↔
      ∃ number rest, number.map Located.char = digits ∧ digits ≠ [] ∧
        (∀ c ∈ digits, Text.isAnyDigit c = true) ∧ places = number ++ rest ∧
        afterColon? rest = some stop := by
  rw [Widened.numberLabel?]
  constructor
  · intro h
    split at h
    · cases h
    · next hempty =>
      obtain ⟨found, hfound, heq⟩ := Option.map_eq_some_iff.mp h
      obtain ⟨rfl, rfl⟩ := Prod.mk.inj heq
      refine ⟨_, _, rfl, ?_, ?_, List.takeWhile_append_dropWhile.symm, hfound⟩
      · rwa [List.isEmpty_iff] at hempty
      · intro c hc
        obtain ⟨place, hplace, rfl⟩ := List.mem_map.mp hc
        exact (List.mem_takeWhile_imp hplace :)
  · rintro ⟨number, rest, rfl, hne, hdigits, rfl, hcolon⟩
    have hnumber : ∀ place ∈ number, Text.isAnyDigit place.char = true := by
      intro place hplace
      exact hdigits _ (List.mem_map_of_mem hplace)
    have hnone := takeWhile_isAnyDigit_of_afterColon? hcolon
    have hdrop : rest.dropWhile (fun place => Text.isAnyDigit place.char) = rest := by
      have happend := List.takeWhile_append_dropWhile
        (p := fun place : Located => Text.isAnyDigit place.char) (l := rest)
      rwa [hnone, List.nil_append] at happend
    simp only [List.takeWhile_append_of_pos hnumber, List.dropWhile_append_of_pos hnumber, hnone,
      hdrop, hcolon, List.append_nil]
    rw [if_neg (by rwa [List.isEmpty_iff])]
    rfl

end Reading

section Labels

variable {places : List Located}

/-- The parts of a page label among places. -/
theorem isLabelText_some_iff
    {digits : List Char} {text : List Located} :
    IsLabelText (some digits) (text.map Located.char) ↔
      ∃ word blank between number gap colon,
        text = word ++ (blank :: between) ++ number ++ gap ++ [colon] ∧
        word.map Located.char = "case".toList ∧
        (∀ place ∈ (blank :: between) ++ gap, Text.isBlank place.char = true) ∧
        number.map Located.char = digits ∧ digits ≠ [] ∧
        (∀ c ∈ digits, Text.isAnyDigit c = true) ∧ colon.char = ':' := by
  constructor
  · intro h
    generalize hchars : text.map Located.char = chars at h
    cases h with
    | page separated blanks numbered number =>
        obtain ⟨front, last, rfl, hfront, hlast⟩ := List.map_eq_append_iff.mp hchars
        obtain ⟨head, gap, rfl, hhead, rfl⟩ := List.map_eq_append_iff.mp hfront
        obtain ⟨keyword, digits, rfl, hkeyword, rfl⟩ := List.map_eq_append_iff.mp hhead
        obtain ⟨word, spaces, rfl, hword, rfl⟩ := List.map_eq_append_iff.mp hkeyword
        obtain ⟨colon, rfl, hcolon⟩ := List.map_eq_singleton_iff.mp hlast
        obtain ⟨blank, between, rfl⟩ :=
          List.exists_cons_of_ne_nil fun hnil => separated (List.map_eq_nil_iff.mpr hnil)
        refine ⟨word, blank, between, digits, gap, colon, rfl, hword, ?_, rfl, numbered, number,
          hcolon⟩
        intro place hplace
        refine blanks _ ?_
        rw [← List.map_append]
        exact List.mem_map_of_mem hplace
  · rintro ⟨word, blank, between, number, gap, colon, rfl, hword, hblanks, rfl, hne, hdigits,
      hcolon⟩
    have htext : (word ++ (blank :: between) ++ number ++ gap ++ [colon]).map Located.char =
        "case".toList ++ (blank :: between).map Located.char ++ number.map Located.char ++
          gap.map Located.char ++ [':'] := by
      simp only [List.map_append, List.map_singleton, hword, hcolon]
    rw [htext]
    refine .page (List.cons_ne_nil _ _) ?_ hne hdigits
    rw [← List.map_append]
    intro c hc
    obtain ⟨place, hplace, rfl⟩ := List.mem_map.mp hc
    exact hblanks place hplace

/-- The parts of the label of all other pages among places. -/
theorem isLabelText_none_iff
    {text : List Located} :
    IsLabelText none (text.map Located.char) ↔
      ∃ word gap colon, text = word ++ gap ++ [colon] ∧
        word.map Located.char = "default".toList ∧
        (∀ place ∈ gap, Text.isBlank place.char = true) ∧ colon.char = ':' := by
  constructor
  · intro h
    generalize hchars : text.map Located.char = chars at h
    cases h with
    | others blanks =>
        obtain ⟨front, last, rfl, hfront, hlast⟩ := List.map_eq_append_iff.mp hchars
        obtain ⟨word, gap, rfl, hword, rfl⟩ := List.map_eq_append_iff.mp hfront
        obtain ⟨colon, rfl, hcolon⟩ := List.map_eq_singleton_iff.mp hlast
        exact ⟨word, gap, colon, rfl, hword, fun place hplace =>
          blanks _ (List.mem_map_of_mem hplace), hcolon⟩
  · rintro ⟨word, gap, colon, rfl, hword, hgap, hcolon⟩
    have htext : (word ++ gap ++ [colon]).map Located.char =
        "default".toList ++ gap.map Located.char ++ [':'] := by
      simp only [List.map_append, List.map_singleton, hword, hcolon]
    rw [htext]
    refine .others ?_
    intro c hc
    obtain ⟨place, hplace, rfl⟩ := List.mem_map.mp hc
    exact hgap place hplace

/-- A page label is read exactly where the places begin with its text. -/
theorem pageLabel?_eq_some_iff
    {digits : List Char} {stop : Nat} :
    pageLabel? places = some (digits, stop) ↔
      ∃ text after, places = text ++ after ∧
        IsLabelText (some digits) (text.map Located.char) ∧
        (text.getLast?.map fun colon => colon.offset + 1) = some stop := by
  rw [Widened.pageLabel?_eq_bind, Option.bind_eq_some_iff]
  constructor
  · rintro ⟨afterCase, hword, hrest⟩
    obtain ⟨word, hspelled, rfl⟩ := afterWord?_eq_some_iff.mp hword
    cases afterCase with
    | nil =>
        cases hrest
    | cons blank rest =>
        simp only at hrest
        split at hrest
        · next hblank =>
          obtain ⟨between, hbetween, hsplit⟩ := exists_eq_append_skipBlanks rest
          obtain ⟨number, behind, hnumber, hne, hdigits, hskip, hcolon⟩ :=
            numberLabel?_eq_some_iff.mp hrest
          obtain ⟨gap, colon, after, hgap, hchar, rfl, rfl⟩ := afterColon?_eq_some_iff.mp hcolon
          refine ⟨word ++ (blank :: between) ++ number ++ gap ++ [colon], after, ?_, ?_, ?_⟩
          · rw [hsplit, hskip]
            simp only [List.append_assoc, List.cons_append, List.nil_append]
          · refine isLabelText_some_iff.mpr ⟨word, blank, between, number, gap, colon, rfl,
              hspelled, ?_, hnumber, hne, hdigits, hchar⟩
            intro place hplace
            rcases List.mem_append.mp hplace with hplace | hplace
            · rcases List.mem_cons.mp hplace with rfl | hplace
              · exact hblank
              · exact hbetween place hplace
            · exact hgap place hplace
          · rw [List.getLast?_concat]
            rfl
        · cases hrest
  · rintro ⟨text, after, rfl, htext, hstop⟩
    obtain ⟨word, blank, between, number, gap, colon, rfl, hword, hblanks, rfl, hne, hdigits,
      hcolon⟩ := isLabelText_some_iff.mp htext
    obtain ⟨first, others, rfl⟩ :=
      List.exists_cons_of_ne_nil fun hnil => hne (List.map_eq_nil_iff.mpr hnil)
    have hskip : skipBlanks (between ++ ((first :: others) ++ (gap ++ colon :: after))) =
        (first :: others) ++ (gap ++ colon :: after) := by
      refine skipBlanks_eq_cons_iff.mpr ⟨?_, between, ?_, rfl⟩
      · by_contra hblank
        have hdigit := hdigits first.char List.mem_cons_self
        rw [Bool.not_eq_false] at hblank
        rw [Text.isAnyDigit_eq_false_of_isBlank hblank] at hdigit
        cases hdigit
      · intro place hplace
        exact hblanks place (List.mem_append_left _ (List.mem_cons_of_mem _ hplace))
    have hfound : Widened.numberLabel?
        ((first :: others) ++ (gap ++ colon :: after)) =
          some ((first :: others).map Located.char, stop) := by
      refine numberLabel?_eq_some_iff.mpr ⟨_, _, rfl, hne, hdigits, rfl, ?_⟩
      refine afterColon?_eq_some_iff.mpr ⟨gap, colon, after, ?_, hcolon, rfl, ?_⟩
      · intro place hplace
        exact hblanks place (List.mem_append_right _ hplace)
      · rw [List.getLast?_concat] at hstop
        exact (Option.some.inj hstop).symm
    refine ⟨(blank :: between) ++ ((first :: others) ++ (gap ++ colon :: after)),
      afterWord?_eq_some_iff.mpr ⟨word, hword, ?_⟩, ?_⟩
    · simp only [List.append_assoc, List.cons_append, List.nil_append]
    · have hblank : Text.isBlank blank.char = true :=
        hblanks blank (List.mem_append_left _ List.mem_cons_self)
      change (if Text.isBlank blank.char = true then
        Widened.numberLabel? (skipBlanks (between ++ _)) else none) = _
      rw [if_pos hblank, hskip, hfound]

theorem defaultLabel?_eq_some_iff
    {stop : Nat} :
    defaultLabel? places = some stop ↔
      ∃ text after, places = text ++ after ∧ IsLabelText none (text.map Located.char) ∧
        (text.getLast?.map fun colon => colon.offset + 1) = some stop := by
  rw [defaultLabel?, Option.bind_eq_some_iff]
  constructor
  · rintro ⟨rest, hword, hcolon⟩
    obtain ⟨word, hspelled, rfl⟩ := afterWord?_eq_some_iff.mp hword
    obtain ⟨gap, colon, after, hgap, hchar, rfl, rfl⟩ := afterColon?_eq_some_iff.mp hcolon
    refine ⟨word ++ gap ++ [colon], after, ?_,
      isLabelText_none_iff.mpr ⟨word, gap, colon, rfl, hspelled, hgap, hchar⟩, ?_⟩
    · simp only [List.append_assoc, List.cons_append, List.nil_append]
    · rw [List.getLast?_concat]
      rfl
  · rintro ⟨text, after, rfl, htext, hstop⟩
    obtain ⟨word, gap, colon, rfl, hword, hgap, hcolon⟩ := isLabelText_none_iff.mp htext
    rw [List.getLast?_concat] at hstop
    refine ⟨gap ++ colon :: after, afterWord?_eq_some_iff.mpr ⟨word, hword, ?_⟩,
      afterColon?_eq_some_iff.mpr
        ⟨gap, colon, after, hgap, hcolon, rfl, (Option.some.inj hstop).symm⟩⟩
    simp only [List.append_assoc, List.cons_append, List.nil_append]

/-- **A label is read exactly where the places begin with its text.** -/
theorem labelAt?_eq_some_iff
    {label : Label} :
    labelAt? places = some label ↔ ∃ text after, places = text ++ after ∧ label.IsText text := by
  constructor
  · intro h
    cases places with
    | nil =>
        cases h
    | cons place rest =>
        -- the label begins where its text does
        have hstart : ∀ {digits : Option (List Char)} {text after : List Located},
            place :: rest = text ++ after → IsLabelText digits (text.map Located.char) →
            text.head?.map Located.offset = some place.offset := by
          intro digits text after hplaces htext
          obtain ⟨first, others, rfl, -⟩ := htext.exists_cons
          rw [(List.cons.inj hplaces).1]
          rfl
        rw [labelAt?] at h
        split at h
        · next digits stop hpage =>
          obtain ⟨text, after, hplaces, htext, hstop⟩ := pageLabel?_eq_some_iff.mp hpage
          rw [← Option.some.inj h]
          exact ⟨text, after, hplaces, htext, hstart hplaces htext, hstop⟩
        · obtain ⟨stop, hdefault, rfl⟩ := Option.map_eq_some_iff.mp h
          obtain ⟨text, after, hplaces, htext, hstop⟩ := defaultLabel?_eq_some_iff.mp hdefault
          exact ⟨text, after, hplaces, htext, hstart hplaces htext, hstop⟩
  · rintro ⟨text, after, rfl, htext, hstart, hstop⟩
    obtain ⟨digits, start, stop⟩ := label
    obtain ⟨first, others, rfl, hfirst⟩ := htext.exists_cons
    obtain rfl := Option.some.inj hstart
    rw [List.cons_append, labelAt?]
    cases digits with
    | some digits =>
        rw [← List.cons_append, pageLabel?_eq_some_iff.mpr ⟨_, after, rfl, htext, hstop⟩]
    | none =>
        have hpage : pageLabel? (first :: (others ++ after)) = none := by
          rw [Option.eq_none_iff_forall_ne_some]
          rintro ⟨digits, stop⟩ hpage
          obtain ⟨text, after, hplaces, htext, -⟩ := pageLabel?_eq_some_iff.mp hpage
          obtain ⟨other, others, rfl, hother⟩ := htext.exists_cons
          rw [(List.cons.inj hplaces).1, hother] at hfirst
          cases hfirst
        rw [hpage, ← List.cons_append,
          defaultLabel?_eq_some_iff.mpr ⟨_, after, rfl, htext, hstop⟩]
        rfl

theorem mem_labelsAfter_cons_iff
    {previous : Option Char} {place : Located} {rest : List Located} {label : Label} :
    label ∈ labelsAfter previous (place :: rest) ↔
      (allowsWord previous = true ∧ labelAt? (place :: rest) = some label) ∨
        label ∈ labelsAfter (some place.char) rest := by
  rw [labelsAfter]
  by_cases hallowed : allowsWord previous = true
  · rw [if_pos hallowed]
    cases labelAt? (place :: rest) with
    | none =>
        simp
    | some found =>
        simp [hallowed, eq_comm]
  · rw [if_neg hallowed]
    simp [hallowed]

/-- The character before what follows places that begin with a place. -/
theorem map_getLast?_cons_or (place : Located) (before : List Located) (previous : Option Char) :
    ((place :: before).getLast?.map Located.char).or previous =
      (before.getLast?.map Located.char).or (some place.char) := by
  rw [List.getLast?_cons]
  cases before.getLast? <;> rfl

theorem Label.standsIn_cons_iff
    {previous : Option Char} {place : Located} {rest : List Located} {label : Label} :
    label.StandsIn previous (place :: rest) ↔
      (allowsWord previous = true ∧
        ∃ text after, place :: rest = text ++ after ∧ label.IsText text) ∨
        label.StandsIn (some place.char) rest := by
  constructor
  · rintro ⟨before, text, after, hplaces, hallowed, htext⟩
    cases before with
    | nil =>
        exact Or.inl ⟨hallowed, text, after, hplaces, htext⟩
    | cons first before =>
        obtain ⟨rfl, rfl⟩ := List.cons.inj hplaces
        rw [map_getLast?_cons_or] at hallowed
        exact Or.inr ⟨before, text, after, rfl, hallowed, htext⟩
  · rintro (⟨hallowed, text, after, hplaces, htext⟩ | ⟨before, text, after, rfl, hallowed, htext⟩)
    · exact ⟨[], text, after, hplaces, hallowed, htext⟩
    · rw [← map_getLast?_cons_or] at hallowed
      exact ⟨place :: before, text, after, rfl, hallowed, htext⟩

/-- **The labels that are found are those that stand in the places.** -/
theorem mem_labelsAfter_iff_standsIn
    {previous : Option Char} {label : Label} :
    label ∈ labelsAfter previous places ↔ label.StandsIn previous places := by
  induction places generalizing previous with
  | nil =>
      constructor
      · intro h
        cases h
      · rintro ⟨before, text, after, hplaces, -, htext⟩
        obtain ⟨first, others, rfl, -⟩ := htext.grammar.exists_cons
        simp at hplaces
  | cons place rest ih =>
      rw [mem_labelsAfter_cons_iff, Label.standsIn_cons_iff, ih, labelAt?_eq_some_iff]

/-- A label begins with a visible character. -/
theorem Label.StandsIn.exists_mem
    {previous : Option Char} {label : Label}
    (h : label.StandsIn previous places) :
    ∃ place ∈ places, place.offset = label.start ∧ Text.isBlank place.char = false := by
  obtain ⟨before, text, after, rfl, -, htext⟩ := h
  obtain ⟨first, others, rfl, hfirst⟩ := htext.grammar.exists_cons
  refine ⟨first, by simp, Option.some.inj htext.start, ?_⟩
  rw [hfirst]
  split <;> decide

/-- A label ends behind its beginning. -/
theorem Label.StandsIn.start_lt_stop
    {previous : Option Char} {label : Label}
    (hplaces : places.Pairwise fun a b => a.offset < b.offset)
    (h : label.StandsIn previous places) :
    label.start < label.stop := by
  obtain ⟨before, text, after, rfl, -, htext⟩ := h
  obtain ⟨first, others, rfl, -⟩ := htext.grammar.exists_cons
  obtain ⟨colon, hcolon, hstop⟩ := Option.map_eq_some_iff.mp htext.stop
  have hstart : first.offset = label.start := Option.some.inj htext.start
  have htext := (List.pairwise_append.mp (List.pairwise_append.mp hplaces).1).2.1
  rcases List.mem_cons.mp (List.mem_of_getLast? hcolon) with rfl | hmem
  · omega
  · have hlt := (List.pairwise_cons.mp htext).1 colon hmem
    omega

/-- A label ends before the labels behind its beginning. -/
theorem Label.IsText.stop_le_start
    {found label : Label} {previous : Option Char} {place : Located} {text rest after : List Located}
    (hplaces : (place :: rest).Pairwise fun a b => a.offset < b.offset)
    (hsplit : place :: rest = text ++ after)
    (hfound : found.IsText text)
    (hlabel : label.StandsIn previous rest) :
    found.stop ≤ label.start := by
  obtain ⟨first, others, rfl, -⟩ := hfound.grammar.exists_cons
  obtain ⟨before, text', after', hrest, -, htext'⟩ := hlabel
  obtain ⟨other, others', rfl, hother⟩ := htext'.grammar.exists_cons
  have hstart : other.offset = label.start := Option.some.inj htext'.start
  have hbehind : rest = others ++ after := (List.cons.inj hsplit).2
  have hmem : other ∈ others ++ after := by
    rw [← hbehind, hrest]
    simp
  obtain ⟨colon, hcolon, hstop⟩ := Option.map_eq_some_iff.mp hfound.stop
  rcases List.mem_append.mp hmem with hmem | hmem
  · -- the first letter of a label does not occur inside the one before it
    have hne := hfound.grammar.ne_of_mem_tail (List.mem_map_of_mem hmem)
    rw [hother] at hne
    split at hne
    · exact absurd rfl hne.1
    · exact absurd rfl hne.2
  · rw [hsplit] at hplaces
    have hlt := (List.pairwise_append.mp hplaces).2.2 colon (List.mem_of_getLast? hcolon) other hmem
    rw [← hstop, ← hstart]
    exact hlt

/-- **Labels do not overlap.** -/
theorem pairwise_stop_labelsAfter
    {previous : Option Char}
    (hplaces : places.Pairwise fun a b => a.offset < b.offset) :
    (labelsAfter previous places).Pairwise fun a b => a.stop ≤ b.start := by
  induction places generalizing previous with
  | nil =>
      exact List.Pairwise.nil
  | cons place rest ih =>
      have hrest : (labelsAfter (some place.char) rest).Pairwise fun a b => a.stop ≤ b.start :=
        ih (List.pairwise_cons.mp hplaces).2
      rw [labelsAfter]
      split
      · next found hfound =>
        refine List.pairwise_cons.mpr ⟨?_, hrest⟩
        intro label hlabel
        have hlabelAt : labelAt? (place :: rest) = some found := by
          split at hfound
          · exact hfound
          · cases hfound
        obtain ⟨text, after, hsplit, htext⟩ := labelAt?_eq_some_iff.mp hlabelAt
        exact htext.stop_le_start hplaces hsplit (mem_labelsAfter_iff_standsIn.mp hlabel)
      · exact hrest

end Labels

end Snippet
end EpaperLayout
