import EpaperLayout.Proofs.Snippet.MarkerFates

/-!
# Line numbers are lines of the document

The line numbers in warnings and errors belong to markers, labels or the dispatch
of a routine.  They are lines of the document if the routine stands in a literal
block, as long as no earlier line looks like the one that opens the block; and they
count from the first line of the routine if no line looks like that at all.

**Looks.**  A line looks like the one that opens the block if it opens a literal
block for a routine and what stands where the routine has its first visible line is
that line, blanks at its ends aside.

**Input.**  `LiteralBlock`: a document in which the routine stands in a literal
block, with one line for each of its own.

**Results.**
* `firstLine_eq_of_resembles`, `firstLine_eq_one`: where the lines of a routine
  count from.
* `exists_standsAt_of_mem_reportedLines`: what each line number belongs to.
* `importSnippet_lines`: which line it is.
* `importSnippet_repeatedFirstLine`: it is a wrong line if an earlier routine begins
  in the same way.
-/

namespace EpaperLayout
namespace Snippet

section Headers

/-- A line that opens a literal block for a routine: its key, behind a dash if it is the first of a
list item, a tag if there is one, and the indicators of the block. -/
def IsHeader (line : List Char) : Prop :=
  ∃ (indent : Nat) (dash : Option Nat) (gap : Nat) (tag : Option Nat) (indicators : List Char),
    line = List.replicate indent ' '
      ++ (dash.elim [] fun blanks => '-' :: ' ' :: List.replicate blanks ' ')
      ++ "lambda:".toList ++ ' ' :: List.replicate gap ' '
      ++ (tag.elim [] fun blanks => "!lambda".toList ++ ' ' :: List.replicate blanks ' ')
      ++ '|' :: indicators

/-- The key of a routine is found behind blanks and a dash. -/
theorem trimLeft_dropDashes_trimLeft (indent : Nat) (dash : Option Nat) (rest : List Char) :
    Text.trimLeft (dropDashes (Text.trimLeft (List.replicate indent ' '
      ++ ((dash.elim [] fun blanks => '-' :: ' ' :: List.replicate blanks ' ')
        ++ 'l' :: rest)))) = 'l' :: rest := by
  rw [Text.trimLeft_replicate_append]
  cases dash with
  | none =>
      rw [Option.elim_none, List.nil_append, Text.trimLeft_cons (by decide), dropDashes,
        Text.trimLeft_cons (by decide)]
      exact nofun
  | some blanks =>
      rw [Option.elim_some, List.cons_append, List.cons_append, Text.trimLeft_cons (by decide),
        dropDashes]
      cases blanks with
      | zero =>
          exact Text.trimLeft_cons (by decide) _
      | succ blanks =>
          have hdashes : dropDashes (List.replicate (blanks + 1) ' ' ++ 'l' :: rest) =
              List.replicate (blanks + 1) ' ' ++ 'l' :: rest := rfl
          rw [hdashes, Text.trimLeft_replicate_append, Text.trimLeft_cons (by decide)]

/-- **A header opens a literal block for a routine.** -/
theorem opensLiteralRoutine_of_isHeader
    {line : List Char}
    (h : IsHeader line) :
    opensLiteralRoutine line = true := by
  obtain ⟨indent, dash, gap, tag, indicators, rfl⟩ := h
  have hblank : ∀ (n : Nat) (cs : List Char),
      Text.trimLeft (' ' :: (List.replicate n ' ' ++ cs)) = Text.trimLeft cs :=
    fun n cs => Text.trimLeft_replicate_append (n + 1) cs
  have hkey : ∀ rest : List Char,
      (dropWord? lambdaKey ('l' :: ("ambda:".toList ++ rest))).bind (dropWord? ":") =
        some rest :=
    fun _ => rfl
  have htag : ∀ rest : List Char, dropWord? "!lambda" ("!lambda".toList ++ rest) = some rest :=
    fun _ => rfl
  have hline : ("lambda:".toList : List Char) = 'l' :: "ambda:".toList := rfl
  rw [hline]
  simp only [List.append_assoc, List.cons_append]
  rw [opensLiteralRoutine]
  simp only [trimLeft_dropDashes_trimLeft, hkey, hblank]
  cases tag with
  | none =>
      rfl
  | some blanks =>
      have hvisible : ∀ rest : List Char,
          Text.trimLeft ("!lambda".toList ++ rest) = "!lambda".toList ++ rest :=
        fun _ => rfl
      simp only [Option.elim_some, List.append_assoc, List.cons_append, hvisible, htag, hblank]
      rfl

end Headers

section FirstLines

/-- A line opens a literal block for a routine whose line number `skip` is `first`, blanks at its
ends aside. -/
def OpensAt (skip : Nat) (first : List Char) (lines : List (List Char)) (i : Nat) : Prop :=
  (∃ line, lines[i]? = some line ∧ opensLiteralRoutine line = true) ∧
    ∃ line, lines[i + 1 + skip]? = some line ∧ Text.trim line = first

variable {skip : Nat} {first line : List Char} {rest : List (List Char)}

theorem opensAt_zero_iff :
    OpensAt skip first (line :: rest) 0 ↔
      (opensLiteralRoutine line &&
        (rest[skip]?).any fun other => Text.trim other = first) = true := by
  have hindex : (line :: rest)[0 + 1 + skip]? = rest[skip]? := by
    rw [Nat.zero_add, Nat.add_comm, List.getElem?_cons_succ]
  rw [OpensAt, hindex, Bool.and_eq_true, Option.any_eq_true]
  simp

theorem opensAt_succ_iff (i : Nat) :
    OpensAt skip first (line :: rest) (i + 1) ↔ OpensAt skip first rest i := by
  have hindex : (line :: rest)[i + 1 + 1 + skip]? = rest[i + 1 + skip]? := by
    rw [Nat.add_right_comm, List.getElem?_cons_succ]
  rw [OpensAt, OpensAt, hindex, List.getElem?_cons_succ]

/-- The first line that opens such a block is found. -/
theorem routineLineFrom?_eq_some
    {lines : List (List Char)} {i : Nat}
    (h : OpensAt skip first lines i)
    (hfirst : ∀ j < i, ¬OpensAt skip first lines j)
    (index : Nat) :
    routineLineFrom? skip first index lines = some (index + i + 2) := by
  induction lines generalizing index i with
  | nil =>
      obtain ⟨⟨line, hline, -⟩, -⟩ := h
      cases hline
  | cons line rest ih =>
      rw [routineLineFrom?]
      cases i with
      | zero =>
          rw [if_pos (opensAt_zero_iff.mp h), Nat.add_zero]
      | succ i =>
          rw [if_neg fun hzero => hfirst 0 (Nat.succ_pos i) (opensAt_zero_iff.mpr hzero),
            ih ((opensAt_succ_iff i).mp h)]
          · rw [Nat.add_right_comm index 1 i, Nat.add_assoc index i 1]
          · intro j hj hopens
            exact hfirst (j + 1) (by omega) ((opensAt_succ_iff j).mpr hopens)

/-- If no line opens such a block, none is found. -/
theorem routineLineFrom?_eq_none
    {lines : List (List Char)}
    (h : ∀ i, ¬OpensAt skip first lines i)
    (index : Nat) :
    routineLineFrom? skip first index lines = none := by
  induction lines generalizing index with
  | nil =>
      rfl
  | cons line rest ih =>
      rw [routineLineFrom?, if_neg fun hzero => h 0 (opensAt_zero_iff.mpr hzero)]
      exact ih (fun i hopens => h (i + 1) ((opensAt_succ_iff i).mpr hopens)) _

/-- The number of blank lines with which a routine begins. -/
def blankLines (source : String) : Nat :=
  ((Text.lines source.toList).takeWhile fun line => (Text.trim line).isEmpty).length

/-- A line of the document looks like the one that opens the block of the routine. -/
def Resembles (text source : String) (i : Nat) : Prop :=
  ∃ first, (Text.lines source.toList)[blankLines source]? = some first ∧
    OpensAt (blankLines source) (Text.trim first) (Text.lines text.toList) i

variable {text source : String}

theorem firstLine_of_getElem?
    (text : String)
    (h : (Text.lines source.toList)[blankLines source]? = some first) :
    firstLine text source =
      (routineLineFrom? (blankLines source) (Text.trim first) 0 (Text.lines text.toList)).getD
        1 := by
  rw [blankLines] at h ⊢
  simp only [firstLine, h]

/-- **The lines count from behind the first line that looks like that.** -/
theorem firstLine_eq_of_resembles
    {i : Nat}
    (h : Resembles text source i)
    (hfirst : ∀ j < i, ¬Resembles text source j) :
    firstLine text source = i + 2 := by
  obtain ⟨first, hline, hopens⟩ := h
  rw [firstLine_of_getElem? text hline, routineLineFrom?_eq_some hopens]
  · rw [Option.getD_some, Nat.zero_add]
  · intro j hj hother
    exact hfirst j hj ⟨first, hline, hother⟩

/-- **The lines count from one if no line looks like that.** -/
theorem firstLine_eq_one
    (h : ∀ i, ¬Resembles text source i) :
    firstLine text source = 1 := by
  cases hline : (Text.lines source.toList)[blankLines source]? with
  | none =>
      rw [blankLines] at hline
      simp only [firstLine, hline]
  | some first =>
      rw [firstLine_of_getElem? text hline, routineLineFrom?_eq_none, Option.getD_none]
      intro i hopens
      exact h i ⟨first, hline, hopens⟩

end FirstLines

section Blocks

/-- A line of the document is a line of the routine behind its indent; a blank line may be shorter.
-/
def IsIndented (indent : Nat) (written line : List Char) : Prop :=
  written = List.replicate indent ' ' ++ line ∨ (line = [] ∧ ∀ c ∈ written, c = ' ')

theorem trim_eq_of_isIndented
    {indent : Nat} {written line : List Char}
    (h : IsIndented indent written line) :
    Text.trim written = Text.trim line := by
  rcases h with rfl | ⟨rfl, hblank⟩
  · exact Text.trim_replicate_append _ _
  · have hnil : Text.trimLeft written = [] := by
      rw [Text.trimLeft_eq_nil_iff]
      intro c hc
      rw [hblank c hc]
      decide
    rw [Text.trim, hnil]
    rfl

/-- A document in which the routine stands in a literal block, with one line for each of its own. -/
structure LiteralBlock (text source : String) where
  before : List (List Char)
  header : List Char
  block : List (List Char)
  after : List (List Char)
  indent : Nat
  lines_eq : Text.lines text.toList = before ++ header :: (block ++ after)
  isHeader : IsHeader header
  indented : List.Forall₂ (IsIndented indent) block (Text.lines source.toList)

namespace LiteralBlock

variable {text source : String} (literal : LiteralBlock text source)

/-- The line of the document on which an offset of the routine stands. -/
def lineOf (offset : Nat) : Nat :=
  literal.before.length + 1 + (Lambda.ofText source).lineOf offset

/-- The lines of the routine are lines of the document. -/
theorem exists_getElem?
    {k : Nat} {line : List Char}
    (h : (Text.lines source.toList)[k]? = some line) :
    ∃ written, (Text.lines text.toList)[literal.before.length + 1 + k]? = some written ∧
      IsIndented literal.indent written line := by
  obtain ⟨hk, rfl⟩ := List.getElem?_eq_some_iff.mp h
  have hlength := literal.indented.length_eq
  have hblock : k < literal.block.length := by omega
  refine ⟨literal.block[k], ?_, literal.indented.get hblock hk⟩
  rw [literal.lines_eq, List.getElem?_append_right (by omega), Nat.add_assoc,
    Nat.add_sub_cancel_left, Nat.add_comm 1 k, List.getElem?_cons_succ,
    List.getElem?_append_left hblock, List.getElem?_eq_getElem hblock]

/-- The header of the block opens it. -/
theorem resembles
    {first : List Char}
    (h : (Text.lines source.toList)[blankLines source]? = some first) :
    Resembles text source literal.before.length := by
  obtain ⟨written, hwritten, hindented⟩ := literal.exists_getElem? h
  refine ⟨first, h, ⟨literal.header, ?_, opensLiteralRoutine_of_isHeader literal.isHeader⟩,
    written, hwritten, trim_eq_of_isIndented hindented⟩
  rw [literal.lines_eq, List.getElem?_append_right (Nat.le_refl _), Nat.sub_self]
  rfl

/-- No earlier line looks like the header if none opens a literal block for a routine. -/
theorem not_resembles
    (h : ∀ line ∈ literal.before, opensLiteralRoutine line = false)
    {i : Nat}
    (hi : i < literal.before.length) :
    ¬Resembles text source i := by
  rintro ⟨first, -, ⟨line, hline, hopens⟩, -⟩
  rw [literal.lines_eq, List.getElem?_append_left hi] at hline
  rw [h line (List.mem_of_getElem? hline)] at hopens
  cases hopens

/-- The line of the document with the number is the line of the routine with the offset. -/
structure IsLineAt (offset number : Nat) : Prop where
  number_eq : number = literal.lineOf offset
  exists_line : ∃ written line, (Text.lines text.toList)[number - 1]? = some written ∧
    (Text.lines source.toList)[(Lambda.ofText source).lineOf offset - 1]? = some line ∧
    IsIndented literal.indent written line

end LiteralBlock

/-- A routine with a visible place has a line that is not blank. -/
theorem exists_getElem?_blankLines
    {source : String} {offset : Nat}
    (h : VisibleAt source.toList offset) :
    ∃ first, (Text.lines source.toList)[blankLines source]? = some first := by
  have htext : VisibleAt (Lambda.ofText source).text offset := h
  obtain ⟨line, hline, hvisible⟩ := htext.exists_line
  have hdrop : (Text.lines source.toList).dropWhile (fun line => (Text.trim line).isEmpty) ≠
      [] := by
    rw [Ne, List.dropWhile_eq_nil_iff]
    intro hblank
    have hempty := hblank line (List.mem_of_getElem? hline)
    rw [hvisible] at hempty
    cases hempty
  obtain ⟨first, rest, hfirst⟩ := List.exists_cons_of_ne_nil hdrop
  refine ⟨first, ?_⟩
  conv_lhs =>
    rw [← List.takeWhile_append_dropWhile
      (p := fun line => (Text.trim line).isEmpty) (l := Text.lines source.toList)]
  rw [blankLines, List.getElem?_append_right (Nat.le_refl _), Nat.sub_self, hfirst]
  rfl

end Blocks

section Reports

/-- What a line number belongs to. -/
inductive Subject where
  | marker
  | label
  | dispatch
deriving DecidableEq, Repr

/-- The line numbers in the warnings or in the error of a result, with what they belong to. -/
def reportedLines : Except SnippetError Imported → List (Subject × Nat)
  | .ok imported => imported.warnings.filterMap fun warning =>
    warning.line.map fun number =>
      (if warning.oddity.isAboutMarker then .marker else .label, number)
  | .error (.noPages number) => [(.dispatch, number)]
  | .error _ => []

/-- What a line number belongs to begins at the offset. -/
def FoundRoutine.StandsAt {text : String} (routine : FoundRoutine text) :
    Subject → Nat → Prop
  | .marker, offset => ∃ place ∈ markersOf routine.lambda.comments, place.1 = offset
  | .label, offset =>
    ∃ closing, routine.lambda.matchingBrace? routine.dispatch.opening = some closing ∧
      ∃ label ∈ routine.lambda.branchLabels (routine.dispatch.opening + 1) closing,
        label.start = offset
  | .dispatch, offset => routine.dispatch.start = offset

/-- Markers, labels and the dispatch begin with a visible character. -/
theorem FoundRoutine.StandsAt.visibleAt
    {text : String} {routine : FoundRoutine text} {subject : Subject} {offset : Nat}
    (h : routine.StandsAt subject offset) :
    VisibleAt routine.source.toList offset := by
  change VisibleAt routine.lambda.text offset
  cases subject with
  | marker =>
      obtain ⟨place, hplace, rfl⟩ := h
      obtain ⟨comment, hcomment, hoffset⟩ := exists_comment_of_mem_markersOf hplace
      rw [← hoffset]
      exact visibleAt_of_mem_comments hcomment
  | label =>
      obtain ⟨closing, -, label, hlabel, rfl⟩ := h
      exact visibleAt_of_mem_branchLabels hlabel
  | dispatch =>
      rw [← h]
      exact visibleAt_of_dispatch?_eq_some routine.found

variable {lambda : Lambda}

namespace PageReading

/-- A warning about a branch that is about no marker has the line of its label. -/
theorem line_of_mem_warnings_addBranch
    {reading : PageReading} {branch : Branch} {warning : Warning}
    (h : warning ∈ (reading.addBranch lambda branch).warnings)
    (hother : warning.oddity.isAboutMarker = false) :
    warning ∈ reading.warnings ∨ warning.line = some (lambda.lineOf branch.label.start) := by
  have hlabel : ∀ oddities : List Oddity,
      warning ∈ oddities.map (lambda.warning branch.label.start) →
        warning.line = some (lambda.lineOf branch.label.start) := by
    intro oddities hmem
    obtain ⟨oddity, -, rfl⟩ := List.mem_map.mp hmem
    rfl
  by_cases hskipped : branch.label.digits = none ∨ UInt32.size ≤ reading.pages.length
  · obtain ⟨oddities, hadd, -⟩ := exists_addBranch_eq_of_skipped lambda hskipped
    rw [hadd] at h
    exact (List.mem_append.mp h).imp_right (hlabel oddities)
  · rw [not_or, Nat.not_le] at hskipped
    obtain ⟨digits, hdigits⟩ := Option.ne_none_iff_exists'.mp hskipped.1
    rw [addBranch_eq_addPage lambda reading hdigits, addPage,
      if_neg (Nat.not_le.mpr hskipped.2)] at h
    rw [List.mem_append, List.mem_append, List.mem_append] at h
    rcases h with ((h | h) | h) | h
    · exact Or.inl h
    · exact Or.inr (hlabel _ h)
    · obtain ⟨odd, hodd, rfl⟩ := List.mem_map.mp h
      have habout := (accountsFor_ofMarkers _ _).aboutMarker odd hodd
      exact absurd (habout.symm.trans hother) (by decide)
    · exact Or.inr (hlabel _ h)

/-- **A warning about the branches that is about no marker has the line of a label.** -/
theorem line_of_mem_warnings_ofBranches
    {branches : List Branch} {warning : Warning}
    (h : warning ∈ (ofBranches lambda branches).warnings)
    (hother : warning.oddity.isAboutMarker = false) :
    ∃ branch ∈ branches, warning.line = some (lambda.lineOf branch.label.start) := by
  induction branches using List.reverseRecOn with
  | nil =>
      cases h
  | append_singleton branches branch ih =>
      rw [ofBranches_concat] at h
      rcases line_of_mem_warnings_addBranch h hother with h | h
      · obtain ⟨found, hfound, hline⟩ := ih h
        exact ⟨found, List.mem_append_left _ hfound, hline⟩
      · exact ⟨branch, List.mem_append_right _ (List.mem_singleton_self _), h⟩

/-- **One that is about a marker has the line of a marker.** -/
theorem line_of_isAboutMarker
    {branches : List Branch} {warning : Warning}
    (h : warning ∈ (ofBranches lambda branches).warnings)
    (habout : warning.oddity.isAboutMarker = true) :
    ∃ place ∈ markersOf lambda.comments, warning.line = some (lambda.lineOf place.1) := by
  have haccount := addsUpTo_ofBranches lambda branches
  have hline : warning.line ∈ linesAboutMarkers (ofBranches lambda branches).warnings :=
    List.mem_map_of_mem (List.mem_filter.mpr ⟨h, habout⟩)
  rw [haccount.lines_eq] at hline
  obtain ⟨place, hplace, hplaceLine⟩ := List.mem_map.mp hline
  obtain ⟨branch, -, hmarker⟩ := mem_branch_of_mem_leftOvers hplace
  refine ⟨place, ?_, hplaceLine.symm⟩
  exact (List.filter_sublist.filterMap _).subset hmarker

end PageReading

/-- A warning with a line belongs to a marker or to a label. -/
theorem UsableDocument.exists_standsAt_of_mem_warnings
    {text deviceId : String} (doc : UsableDocument text) {warning : Warning} {number : Nat}
    (h : warning ∈ doc.warnings deviceId)
    (hnumber : warning.line = some number) :
    ∃ offset, doc.routine.StandsAt
        (if warning.oddity.isAboutMarker then .marker else .label) offset ∧
      number = doc.lambda.lineOf offset := by
  have hmarker : (∃ place ∈ markersOf doc.lambda.comments,
        warning.line = some (doc.lambda.lineOf place.1)) →
      ∃ offset, doc.routine.StandsAt .marker offset ∧ number = doc.lambda.lineOf offset := by
    rintro ⟨place, hplace, hline⟩
    exact ⟨place.1, ⟨place, hplace, rfl⟩, Option.some.inj (hnumber.symm.trans hline)⟩
  rw [UsableDocument.warnings, UsableDispatch.warnings, List.mem_append, List.mem_append,
    List.mem_append] at h
  rcases h with ((h | h) | h) | h
  · obtain ⟨name, -, rfl⟩ := List.mem_map.mp h
    cases hnumber
  · cases habout : warning.oddity.isAboutMarker with
    | true =>
        exact hmarker (PageReading.line_of_isAboutMarker h habout)
    | false =>
        obtain ⟨branch, hbranch, hline⟩ := PageReading.line_of_mem_warnings_ofBranches h habout
        exact ⟨branch.label.start,
          ⟨doc.usable.closing, doc.usable.closed, branch.label,
            label_mem_of_mem_branchesOf hbranch, rfl⟩,
          Option.some.inj (hnumber.symm.trans hline)⟩
  · rw [(accountsFor_ofLambda _ _ _).aboutMarker warning h, if_pos rfl]
    obtain ⟨place, hplace, hline⟩ := line_of_mem_warnings_ofMarkers h
    exact hmarker ⟨place, (List.filter_sublist.filterMap _).subset hplace, hline⟩
  · rw [(line_of_otherDevice? (Option.mem_toList.mp h)).1] at hnumber
    cases hnumber

/-- A dispatch without pages is refused with its line. -/
theorem exists_of_importSnippet_eq_noPages
    {text deviceId : String} {number : Nat}
    (h : importSnippet text deviceId = .error (.noPages number)) :
    ∃ routine : FoundRoutine text, number = routine.lambda.lineOf routine.dispatch.start := by
  rcases importSnippet_cases text deviceId with ⟨error, hfault, hread⟩ | ⟨routine, hread⟩
  · rw [h] at hread
    rw [← Except.error.inj hread] at hfault
    exact hfault.elim
  · refine ⟨routine, ?_⟩
    rw [h] at hread
    rcases Routine.read_cases { lambda := routine.lambda, dispatch := routine.dispatch }
      routine.found (sectionWarnings routine.document) deviceId with
      ⟨error, hfault, hrefused⟩ | hrefused | ⟨usable, hdispatch⟩
    · rw [← hread] at hrefused
      rw [← Except.error.inj hrefused] at hfault
      exact hfault.elim
    · rw [← hread] at hrefused
      exact SnippetError.noPages.inj (Except.error.inj hrefused)
    · have hread' := usable.read_eq (sectionWarnings routine.document) deviceId
      rw [hdispatch] at hread'
      rw [← hread] at hread'
      split at hread' <;> cases hread'

/-- **Every line number belongs to a marker, to a label or to the dispatch.** -/
theorem exists_standsAt_of_mem_reportedLines
    {text deviceId : String} {subject : Subject} {number : Nat}
    (h : (subject, number) ∈ reportedLines (importSnippet text deviceId)) :
    ∃ routine : FoundRoutine text, ∃ offset, routine.StandsAt subject offset ∧
      number = routine.lambda.lineOf offset := by
  cases hresult : importSnippet text deviceId with
  | ok imported =>
      rw [hresult] at h
      obtain ⟨doc⟩ : Nonempty (UsableDocument text) :=
        nonempty_usableDocument deviceId (by rw [hresult]; trivial)
      have hwarnings : imported.warnings = doc.warnings deviceId := by
        rw [doc.importSnippet_eq] at hresult
        split at hresult
        · rw [← Except.ok.inj hresult]
        · cases hresult
      obtain ⟨warning, hmem, hline⟩ := List.mem_filterMap.mp h
      obtain ⟨line, hnumber, heq⟩ := Option.map_eq_some_iff.mp hline
      obtain ⟨rfl, rfl⟩ := Prod.mk.inj heq
      rw [hwarnings] at hmem
      exact ⟨doc.routine, doc.exists_standsAt_of_mem_warnings hmem hnumber⟩
  | error error =>
      rw [hresult] at h
      cases error with
      | invalidYaml message line column => cases h
      | unrecognized reason => cases h
      | invalidLayout report => cases h
      | noPages line =>
          obtain ⟨rfl, rfl⟩ := Prod.mk.inj (List.mem_singleton.mp h)
          obtain ⟨routine, hline⟩ := exists_of_importSnippet_eq_noPages hresult
          exact ⟨routine, routine.dispatch.start, rfl, hline⟩

end Reports

section Documents

/-- **Line numbers are lines of the document**, unless an earlier line looks like the one that opens
the block of the routine. -/
theorem importSnippet_lines
    {text deviceId : String} {subject : Subject} {number : Nat}
    (h : (subject, number) ∈ reportedLines (importSnippet text deviceId)) :
    ∃ routine : FoundRoutine text, ∃ offset, routine.StandsAt subject offset ∧
      (∀ literal : LiteralBlock text routine.source,
        (∀ i < literal.before.length, ¬Resembles text routine.source i) →
          literal.IsLineAt offset number) ∧
      ((∀ i, ¬Resembles text routine.source i) →
        number = (Lambda.ofText routine.source).lineOf offset) := by
  obtain ⟨routine, offset, hstands, hnumber⟩ := exists_standsAt_of_mem_reportedLines h
  have hpositive : 1 ≤ (Lambda.ofText routine.source).lineOf offset := Nat.le_add_right _ _
  have hcount : number + 1 = firstLine text routine.source +
      (Lambda.ofText routine.source).lineOf offset := by
    rw [hnumber, Lambda.lineOf, Lambda.lineOf, Nat.add_right_comm, Nat.add_assoc]
    rfl
  refine ⟨routine, offset, hstands, ?_, ?_⟩
  · intro literal hfirst
    obtain ⟨first, hvisible⟩ := exists_getElem?_blankLines hstands.visibleAt
    rw [firstLine_eq_of_resembles (literal.resembles hvisible) hfirst] at hcount
    have hstart : VisibleAt (Lambda.ofText routine.source).text offset := hstands.visibleAt
    obtain ⟨line, hline, -⟩ := hstart.exists_line
    obtain ⟨written, hwritten, hindented⟩ := literal.exists_getElem? hline
    refine ⟨by rw [LiteralBlock.lineOf]; omega, written, line, ?_, hline, hindented⟩
    rw [← hwritten]
    congr 1
    change number - 1 = literal.before.length + 1 +
      ((Lambda.ofText routine.source).lineOf offset - 1)
    omega
  · intro hnone
    rw [firstLine_eq_one hnone] at hcount
    omega

/-- A document whose routine begins with a blank line. -/
def blankFirstLine : String :=
  "display:\n lambda: |\n\n  switch(id(display_page))\x7b\n  case 3:\x7d\n"

theorem hasRoutine_blankFirstLine :
    HasRoutine blankFirstLine "\nswitch(id(display_page))\x7b\ncase 3:\x7d\n" := by
  rewrite [HasRoutine, loadDocument, Yaml.Value.ofText, Yaml.TokenStream.ofText,
    show blankFirstLine.toList = _ from String.toList_ofList]
  decide +kernel

/-- The routine in its literal block. -/
def blankFirstLineBlock :
    LiteralBlock blankFirstLine "\nswitch(id(display_page))\x7b\ncase 3:\x7d\n" where
  before := ["display:".toList]
  header := " lambda: |".toList
  block := [[], "  switch(id(display_page))\x7b".toList, "  case 3:\x7d".toList]
  after := []
  indent := 2
  lines_eq := by
    rewrite [show blankFirstLine.toList = _ from String.toList_ofList]
    decide +kernel
  isHeader := ⟨1, none, 0, none, [], by decide⟩
  indented := by
    have hlines : Text.lines "\nswitch(id(display_page))\x7b\ncase 3:\x7d\n".toList =
        [[], "switch(id(display_page))\x7b".toList, "case 3:\x7d".toList] := by
      decide +kernel
    rw [hlines]
    exact .cons (.inr ⟨rfl, nofun⟩) (.cons (.inl (by decide)) (.cons (.inl (by decide)) .nil))

/-- The label of that routine is reported with its line. -/
theorem importSnippet_lines_blankFirstLine :
    (.label, 5) ∈ reportedLines (importSnippet blankFirstLine "panel") ∧
      ∃ routine : FoundRoutine blankFirstLine, ∃ offset, routine.StandsAt .label offset ∧
        ∃ literal : LiteralBlock blankFirstLine routine.source, literal.IsLineAt offset 5 := by
  have hreported : (.label, 5) ∈ reportedLines (importSnippet blankFirstLine "panel") := by
    rewrite [hasRoutine_blankFirstLine.importSnippet_eq, Lambda.ofText, firstLine,
      show String.toList "\nswitch(id(display_page))\x7b\ncase 3:\x7d\n" = _ from
        String.toList_ofList,
      show blankFirstLine.toList = _ from String.toList_ofList]
    decide +kernel
  obtain ⟨routine, offset, hstands, hliteral, -⟩ := importSnippet_lines hreported
  have hsource : routine.source = "\nswitch(id(display_page))\x7b\ncase 3:\x7d\n" :=
    hasRoutine_blankFirstLine.source_eq routine
  refine ⟨hreported, routine, offset, hstands, ?_⟩
  rw [hsource] at hliteral ⊢
  exact ⟨blankFirstLineBlock, hliteral _ fun i hi =>
    blankFirstLineBlock.not_resembles (by decide) hi⟩

/-- A document in which another routine begins in the same way as the one with the dispatch. -/
def repeatedFirstLine : String :=
  "sensor:\n lambda: |\n  // shared\ndisplay:\n lambda: |\n  // shared\n" ++
    "  switch(id(display_page))\x7b\n  case 3:\x7d\n"

/-- The routine with the dispatch. -/
def repeatedFirstLineRoutine : String :=
  "// shared\nswitch(id(display_page))\x7b\ncase 3:\x7d\n"

theorem hasRoutine_repeatedFirstLine : HasRoutine repeatedFirstLine repeatedFirstLineRoutine := by
  rewrite [HasRoutine, loadDocument, Yaml.Value.ofText, Yaml.TokenStream.ofText,
    show repeatedFirstLine.toList = _ from
      toList_append_eq String.toList_ofList String.toList_ofList]
  decide +kernel

/-- That routine in its literal block. -/
def repeatedFirstLineBlock : LiteralBlock repeatedFirstLine repeatedFirstLineRoutine where
  before := ["sensor:".toList, " lambda: |".toList, "  // shared".toList, "display:".toList]
  header := " lambda: |".toList
  block := ["  // shared".toList, "  switch(id(display_page))\x7b".toList,
    "  case 3:\x7d".toList]
  after := []
  indent := 2
  lines_eq := by
    rewrite [show repeatedFirstLine.toList = _ from
      toList_append_eq String.toList_ofList String.toList_ofList]
    decide +kernel
  isHeader := ⟨1, none, 0, none, [], by decide⟩
  indented := by
    have hlines : Text.lines repeatedFirstLineRoutine.toList =
        ["// shared".toList, "switch(id(display_page))\x7b".toList, "case 3:\x7d".toList] := by
      decide +kernel
    rw [hlines]
    exact .cons (.inl (by decide)) (.cons (.inl (by decide)) (.cons (.inl (by decide)) .nil))

/-- The label of the routine with the dispatch is reported with a line of the other routine. -/
theorem importSnippet_repeatedFirstLine :
    (.label, 5) ∈ reportedLines (importSnippet repeatedFirstLine "panel") ∧
      ∃ routine : FoundRoutine repeatedFirstLine, (∃ offset, routine.StandsAt .label offset) ∧
        ∃ literal : LiteralBlock repeatedFirstLine routine.source,
          ∀ offset, routine.StandsAt .label offset → literal.lineOf offset = 8 := by
  have hreported : (.label, 5) ∈ reportedLines (importSnippet repeatedFirstLine "panel") := by
    rewrite [hasRoutine_repeatedFirstLine.importSnippet_eq, Lambda.ofText, firstLine,
      show repeatedFirstLineRoutine.toList = _ from String.toList_ofList,
      show repeatedFirstLine.toList = _ from
        toList_append_eq String.toList_ofList String.toList_ofList]
    decide +kernel
  obtain ⟨routine, offset, hstands, -⟩ := exists_standsAt_of_mem_reportedLines hreported
  have hsource : routine.source = repeatedFirstLineRoutine :=
    hasRoutine_repeatedFirstLine.source_eq routine
  have hfound := routine.found
  have hspelled : Lambda.ofText repeatedFirstLineRoutine = { text := _ } :=
    Lambda.ofText_eq String.toList_ofList
  have hlabels : ∀ offset, routine.StandsAt .label offset →
      (Lambda.ofText repeatedFirstLineRoutine).lineOf offset = 3 := by
    rintro - ⟨closing, hclosing, label, hlabel, rfl⟩
    change (Lambda.ofText routine.source).matchingBrace? _ = _ at hclosing
    change label ∈ (Lambda.ofText routine.source).branchLabels _ _ at hlabel
    rw [hsource] at hclosing hlabel hfound
    have hdispatch : (Lambda.ofText repeatedFirstLineRoutine).dispatch? =
        some { start := 10, opening := 34 } := by
      rewrite [hspelled]
      decide +kernel
    rw [← Option.some.inj (hdispatch.symm.trans hfound)] at hclosing hlabel
    have hbrace : (Lambda.ofText repeatedFirstLineRoutine).matchingBrace? 34 = some 43 := by
      rewrite [hspelled]
      decide +kernel
    rw [← Option.some.inj (hbrace.symm.trans hclosing)] at hlabel
    have hlines : ∀ label ∈ (Lambda.ofText repeatedFirstLineRoutine).branchLabels 35 43,
        (Lambda.ofText repeatedFirstLineRoutine).lineOf label.start = 3 := by
      rewrite [hspelled]
      decide +kernel
    exact hlines label hlabel
  refine ⟨hreported, routine, ⟨offset, hstands⟩, ?_⟩
  rw [hsource]
  refine ⟨repeatedFirstLineBlock, ?_⟩
  intro offset hoffset
  rw [LiteralBlock.lineOf, hlabels offset hoffset]
  rfl

end Documents

end Snippet
end EpaperLayout
