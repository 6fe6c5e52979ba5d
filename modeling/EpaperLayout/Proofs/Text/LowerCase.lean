import EpaperLayout.Text.Lowercase
import Mathlib.Data.List.Basic

/-!
# Lower case stays as it is

What lower-casing leaves of a text is lower case already: another pass changes nothing.
And it makes no character before the letter `a` that was not there, such as a slash, a
colon or a space.

**Runs.**  The lower-case forms of a run of capitals are a run of the same length.  For
every two runs of the table it is enough to compare ends and, where capitals and small
letters take turns, whether the one is odd and the other even.

**Results.**
* `mem_lowercase_cases`: where the characters of a lower-case text come from.
* `mem_of_mem_lowercase`: those before `a` are characters of the text itself.
* `lowercase_lowercase`: lower-casing twice is lower-casing once.
-/

namespace EpaperLayout
namespace Text

section Runs

variable {run other : CaseRun} {c d : Char}

/-- No lower-case form of the other run is a capital of this one: the two lie apart, or they take
turns. -/
def CaseRun.misses (run other : CaseRun) : Bool :=
  Nat.blt run.last other.image || Nat.blt (other.image + (other.last - other.first)) run.first ||
    (run.step == 2 && (other.step == 2 || other.first == other.last) &&
      (run.first + other.image) % 2 == 1)

/-- The lower-case forms of the run are characters, not before `a`, and none of them is the dotted
capital I. -/
def CaseRun.Fits (run : CaseRun) : Prop :=
  'a'.toNat ≤ run.image ∧
    (run.image + (run.last - run.first) < 'İ'.toNat ∨ 'İ'.toNat < run.image) ∧
    (run.image + (run.last - run.first) < 0xD800 ∨
      0xDFFF < run.image ∧ run.image + (run.last - run.first) < 0x110000)

instance (run : CaseRun) : Decidable run.Fits :=
  inferInstanceAs (Decidable (_ ∧ _ ∧ _))

theorem fits_of_mem_caseRuns : ∀ run ∈ caseRuns, run.Fits := by
  decide +kernel

-- a table of Booleans, as the kernel is slow at this many decisions
theorem all_misses_caseRuns :
    (caseRuns.all fun run => caseRuns.all fun other => run.misses other) = true := by
  decide +kernel

theorem misses_of_mem_caseRuns
    (hrun : run ∈ caseRuns)
    (hother : other ∈ caseRuns) :
    run.misses other = true :=
  List.all_eq_true.mp (List.all_eq_true.mp all_misses_caseRuns run hrun) other hother

theorem CaseRun.misses_iff :
    run.misses other = true ↔
      run.last < other.image ∨ other.image + (other.last - other.first) < run.first ∨
        run.step = 2 ∧ (other.step = 2 ∨ other.first = other.last) ∧
          (run.first + other.image) % 2 = 1 := by
  simp [CaseRun.misses, or_assoc, and_assoc]

theorem CaseRun.holds_iff :
    run.holds c = true ↔
      run.first ≤ c.toNat ∧ c.toNat ≤ run.last ∧ (c.toNat - run.first) % run.step = 0 := by
  simp [CaseRun.holds, and_assoc]

/-- A run does not hold the lower-case form of a capital of a run that it misses. -/
theorem CaseRun.holds_eq_false_of_misses
    (h : run.misses other = true)
    (hother : other.holds c = true)
    (himage : d.toNat = other.image + (c.toNat - other.first)) :
    run.holds d = false := by
  obtain ⟨hlow, hhigh, hstep⟩ := CaseRun.holds_iff.mp hother
  rw [Bool.eq_false_iff]
  intro hholds
  obtain ⟨hfirst, hlast, hturn⟩ := CaseRun.holds_iff.mp hholds
  rcases CaseRun.misses_iff.mp h with hbefore | hbehind | ⟨htwo, halternate, hodd⟩
  · omega
  · omega
  · -- the capital is at an even distance from the first one, and so would be its form
    have heven : (c.toNat - other.first) % 2 = 0 := by
      rcases halternate with htwo' | hsingle
      · rwa [htwo'] at hstep
      · omega
    rw [htwo] at hturn
    omega

/-- A character is in no run and has no other lower-case form, or it is in a run and has the form
that belongs to its place. -/
theorem lowerChar_cases (c : Char) :
    (lowerChar c = c ∧ ∀ run ∈ caseRuns, run.holds c = false) ∨
      ∃ run ∈ caseRuns, run.holds c = true ∧
        (lowerChar c).toNat = run.image + (c.toNat - run.first) := by
  rw [lowerChar]
  cases hfind : caseRuns.find? fun run => run.holds c with
  | none =>
      refine Or.inl ⟨rfl, ?_⟩
      simpa using List.find?_eq_none.mp hfind
  | some run =>
      have hmem := List.mem_of_find?_eq_some hfind
      have hholds := List.find?_some hfind
      obtain ⟨hlow, hhigh, -⟩ := CaseRun.holds_iff.mp hholds
      obtain ⟨-, -, hrange⟩ := fits_of_mem_caseRuns run hmem
      have hvalid : (run.image + (c.toNat - run.first)).isValidChar := by
        rw [Nat.isValidChar]
        omega
      refine Or.inr ⟨run, hmem, hholds, ?_⟩
      change (Char.ofNat _).toNat = _
      rw [Char.ofNat, dif_pos hvalid]
      rfl

end Runs

section Settled

variable {c : Char} {before cs : List Char}

/-- A character that is in lower case as far as it can be. -/
def IsSettled (c : Char) : Prop :=
  c ≠ 'İ' ∧ ∀ run ∈ caseRuns, run.holds c = false

instance (c : Char) : Decidable (IsSettled c) :=
  inferInstanceAs (Decidable (_ ∧ _))

theorem IsSettled.lowerChar_eq (h : IsSettled c) : lowerChar c = c := by
  rcases lowerChar_cases c with ⟨heq, -⟩ | ⟨run, hmem, hholds, -⟩
  · exact heq
  · rw [h.2 run hmem] at hholds
    cases hholds

theorem IsSettled.ne_sigma (h : IsSettled c) : c ≠ 'Σ' := by
  rintro rfl
  exact absurd h (by decide +kernel)

/-- The lower-case form of a character is settled, except that of the dotted capital I, which is
more than one character. -/
theorem isSettled_lowerChar
    (h : c ≠ 'İ') :
    IsSettled (lowerChar c) := by
  rcases lowerChar_cases c with ⟨heq, hnone⟩ | ⟨other, hmem, hholds, himage⟩
  · rw [heq]
    exact ⟨h, hnone⟩
  · obtain ⟨hlow, hhigh, -⟩ := CaseRun.holds_iff.mp hholds
    obtain ⟨-, hdotted, -⟩ := fits_of_mem_caseRuns other hmem
    refine ⟨?_, ?_⟩
    · intro heq
      rw [heq] at himage
      omega
    · intro run hrun
      exact CaseRun.holds_eq_false_of_misses (misses_of_mem_caseRuns hrun hmem) hholds himage

/-- What a lower-case text holds beside the lower-case forms of single characters: the two small
sigmas, and an i with a dot of its own. -/
def specialForms : List Char :=
  ['ς', 'σ', 'i', '\u0307']

/-- **The characters of a lower-case text.** -/
theorem mem_lowercaseAfter_cases
    (h : c ∈ lowercaseAfter before cs) :
    c ∈ specialForms ∨ ∃ d ∈ cs, d ≠ 'İ' ∧ c = lowerChar d := by
  induction cs generalizing before with
  | nil =>
      cases h
  | cons d rest ih =>
      rw [lowercaseAfter, List.mem_append] at h
      rcases h with h | h
      · split at h
        · -- a capital sigma
          left
          split at h
          · simp [specialForms, List.mem_singleton.mp h]
          · simp [specialForms, List.mem_singleton.mp h]
        · split at h
          · left
            simp only [List.mem_cons, List.not_mem_nil, or_false] at h
            rcases h with rfl | rfl <;> simp [specialForms]
          · next hdotted =>
            exact Or.inr ⟨d, List.mem_cons_self, hdotted, List.mem_singleton.mp h⟩
      · rcases ih h with hspecial | ⟨e, he, hform⟩
        · exact Or.inl hspecial
        · exact Or.inr ⟨e, List.mem_cons_of_mem _ he, hform⟩

theorem isSettled_of_mem_lowercase
    (h : c ∈ lowercase cs) :
    IsSettled c := by
  have hspecial : ∀ c ∈ specialForms, IsSettled c := by decide +kernel
  rcases mem_lowercaseAfter_cases h with hmem | ⟨d, -, hdotted, rfl⟩
  · exact hspecial c hmem
  · exact isSettled_lowerChar hdotted

/-- **Lower-casing makes no character before the letter `a`.** -/
theorem mem_of_mem_lowercase
    (h : c ∈ lowercase cs)
    (hc : c.toNat < 'a'.toNat) :
    c ∈ cs := by
  have hspecial : ∀ c ∈ specialForms, 'a'.toNat ≤ c.toNat := by decide
  rcases mem_lowercaseAfter_cases h with hmem | ⟨d, hd, -, rfl⟩
  · have := hspecial c hmem
    omega
  · rcases lowerChar_cases d with ⟨heq, -⟩ | ⟨run, hrun, -, himage⟩
    · rwa [heq]
    · have := (fits_of_mem_caseRuns run hrun).1
      omega

/-- Settled characters stay as they are. -/
theorem lowercaseAfter_of_isSettled
    (h : ∀ c ∈ cs, IsSettled c)
    (before : List Char) :
    lowercaseAfter before cs = cs := by
  induction cs generalizing before with
  | nil =>
      rfl
  | cons c rest ih =>
      have hc := h c List.mem_cons_self
      rw [lowercaseAfter, ih fun d hd => h d (List.mem_cons_of_mem _ hd)]
      simp only [if_neg hc.ne_sigma, if_neg hc.1, hc.lowerChar_eq, List.singleton_append]

/-- **A text in lower case stays as it is.** -/
theorem lowercase_lowercase (cs : List Char) : lowercase (lowercase cs) = lowercase cs :=
  lowercaseAfter_of_isSettled (fun _ => isSettled_of_mem_lowercase) []

end Settled

end Text
end EpaperLayout
