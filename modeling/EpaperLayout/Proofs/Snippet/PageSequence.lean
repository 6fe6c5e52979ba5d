import EpaperLayout.Proofs.Layout.Violations
import EpaperLayout.Proofs.Snippet.BranchContents
import EpaperLayout.Proofs.Snippet.FreeIds
import EpaperLayout.Proofs.Success

/-!
# One page for each branch

A branch with a page label adds one page, as long as there are ordinals left; a
branch for all other pages adds none.

**Step.**
* `IsPageOf`: what the page of a branch has to do with its markers and with the
  pages before it.
* `addBranch_eq_addPage`, `exists_addBranch_eq_of_skipped`: all that a branch can do.
* `exists_isPageOf_addBranch`, `addBranch_of_skipped`: a branch adds such a page
  and one warning for each of its markers that is left over, or it adds neither.

**Run.**
* `AddsUpTo`: the pages are those of the branches, one by one, and the warnings
  about markers are those of the markers that are left over.
* `addsUpTo_ofBranches`: this holds of what is read of any branches.
-/

namespace EpaperLayout
namespace Snippet

/-- The markers among the line comments of a branch. -/
def markersIn (lambda : Lambda) (branch : Branch) : List PlacedMarker :=
  markersOf (lambda.commentsIn branch.label.stop branch.stop)

/-- The identifiers of the widgets on the pages. -/
def widgetIdsOf (pages : List Page) : List String :=
  (pages.flatMap Page.widgets).map Widget.id

/-- The page of a branch with the given markers, after the pages `earlier`. -/
structure IsPageOf (earlier : List Page) (markers : List PlacedMarker) (page : Page) : Prop where
  ordinal_eq : page.ordinal.toNat = earlier.length
  id_notBlank : Text.isBlankText page.id = false
  id_new : page.id ∉ earlier.map Page.id
  /-- The title is that of the first page marker that can be read. -/
  title_eq : page.title =
    ((markers.findSome? pageOf?).map PageIdentity.title).getD s!"Page {earlier.length + 1}"
  /-- The widgets are those of the widget markers, except for identifiers seen before. -/
  widgets_eq : page.widgets = firstById (widgetIdsOf earlier) (markers.filterMap widgetOf?)

/-- The lines of the warnings about single markers. -/
def linesAboutMarkers (warnings : List Warning) : List (Option Nat) :=
  (warnings.filter fun warning => warning.oddity.isAboutMarker).map Warning.line

@[simp] theorem linesAboutMarkers_append (first second : List Warning) :
    linesAboutMarkers (first ++ second) =
      linesAboutMarkers first ++ linesAboutMarkers second := by
  simp [linesAboutMarkers]

/-- Warnings about something else than a marker do not count. -/
theorem linesAboutMarkers_eq_nil
    {warnings : List Warning}
    (h : ∀ warning ∈ warnings, warning.oddity.isAboutMarker = false) :
    linesAboutMarkers warnings = [] := by
  rw [linesAboutMarkers, List.map_eq_nil_iff, List.filter_eq_nil_iff]
  intro warning hwarning
  simp [h warning hwarning]

/-- Remarks about something else than a marker do not count, wherever they are. -/
theorem linesAboutMarkers_map_warning
    {lambda : Lambda} {oddities : List Oddity}
    (h : ∀ oddity ∈ oddities, oddity.isAboutMarker = false)
    (offset : Nat) :
    linesAboutMarkers (oddities.map (lambda.warning offset)) = [] := by
  refine linesAboutMarkers_eq_nil ?_
  intro warning hwarning
  obtain ⟨oddity, hoddity, rfl⟩ := List.mem_map.mp hwarning
  exact h oddity hoddity

/-- A page marker that can be read has an identifier that is not blank. -/
theorem isBlankText_id_of_page
    {marker : Marker} {identity : PageIdentity}
    (h : marker.page = .ok identity) :
    Text.isBlankText identity.id = false := by
  obtain ⟨⟨_, later⟩, hread, rfl⟩ := map_eq_ok_iff.mp h
  obtain ⟨⟨id, left⟩, -, hread⟩ := exists_of_bind_eq_ok hread
  dsimp only at hread
  split at hread
  · cases hread
  · next hblank =>
    obtain ⟨⟨_, _⟩, -, hread⟩ := exists_of_bind_eq_ok hread
    cases hread
    simpa using hblank

theorem isBlankText_id_of_pageOf?
    {place : PlacedMarker} {identity : PageIdentity}
    (h : pageOf? place = some identity) :
    Text.isBlankText identity.id = false := by
  unfold pageOf? at h
  split at h
  · cases h
  · next marker hmarker =>
    split at h
    · cases hpage : marker.page with
      | error error =>
          rw [hpage] at h
          cases h
      | ok found =>
          rw [hpage] at h
          cases h
          exact isBlankText_id_of_page hpage
    · cases h

theorem flaws_of_widgetOf?
    {place : PlacedMarker} {widget : Widget}
    (h : widgetOf? place = some widget) :
    widget.flaws = [] := by
  unfold widgetOf? at h
  split at h
  · cases h
  · split at h
    · rw [Option.filter_eq_some_iff] at h
      rw [← Widget.problems_eq_nil_iff]
      simpa using h.2
    · cases h

theorem isBlankText_defaultIdentity (ordinal : UInt32) :
    Text.isBlankText (PageReading.defaultIdentity ordinal).id = false := by
  rw [Text.isBlankText, List.all_eq_false]
  refine ⟨'p', ?_, by decide⟩
  change 'p' ∈ ("page_" ++ toString ordinal.toNat).toList
  simp

namespace PageReading

variable {lambda : Lambda} {reading : PageReading} {branch : Branch}

/-- The remark on a label is about no marker. -/
theorem not_isAboutMarker_labelOddity?
    {digits : List Char} {ordinal : UInt32} {oddity : Oddity}
    (h : labelOddity? digits ordinal = some oddity) :
    oddity.isAboutMarker = false := by
  unfold labelOddity? at h
  split at h
  · split at h
    · cases h
    · cases h
      rfl
  · cases h
    rfl

/-- Branches are read one after the other. -/
theorem ofBranches_concat (branches : List Branch) (branch : Branch) :
    ofBranches lambda (branches ++ [branch]) =
      (ofBranches lambda branches).addBranch lambda branch := by
  simp [ofBranches]

/-- A branch with a page label is read as a page. -/
theorem addBranch_eq_addPage
    {digits : List Char}
    (lambda : Lambda) (reading : PageReading)
    (hdigits : branch.label.digits = some digits) :
    reading.addBranch lambda branch =
      reading.addPage lambda branch digits (markersIn lambda branch) := by
  rw [addBranch]
  simp only [hdigits]
  rfl

/-- A branch for all other pages, or one without an ordinal left, leads to no more than a warning
about its label. -/
theorem exists_addBranch_eq_of_skipped
    (lambda : Lambda)
    (h : branch.label.digits = none ∨ UInt32.size ≤ reading.pages.length) :
    ∃ oddities : List Oddity,
      reading.addBranch lambda branch =
        { reading with
          warnings := reading.warnings ++ oddities.map (lambda.warning branch.label.start) } ∧
      ∀ oddity ∈ oddities, oddity = .markersInDefault ∨ oddity = .tooManyPages := by
  cases hdigits : branch.label.digits with
  | none =>
      rw [addBranch]
      simp only [hdigits]
      split
      · refine ⟨[], ?_, nofun⟩
        rw [List.map_nil, List.append_nil]
      · exact ⟨[.markersInDefault], rfl, by simp⟩
  | some digits =>
      have hfull : UInt32.size ≤ reading.pages.length := by
        rw [hdigits] at h
        simpa using h
      rw [addBranch_eq_addPage lambda reading hdigits, addPage, if_pos hfull]
      exact ⟨[.tooManyPages], rfl, by simp⟩

/-- Such a branch adds nothing of its markers. -/
theorem addBranch_of_skipped
    (lambda : Lambda)
    (h : branch.label.digits = none ∨ UInt32.size ≤ reading.pages.length) :
    (reading.addBranch lambda branch).pages = reading.pages ∧
      linesAboutMarkers (reading.addBranch lambda branch).warnings =
        linesAboutMarkers reading.warnings := by
  obtain ⟨oddities, hadd, hkinds⟩ := exists_addBranch_eq_of_skipped lambda h
  rw [hadd]
  refine ⟨rfl, ?_⟩
  rw [linesAboutMarkers_append, List.append_right_eq_self]
  refine linesAboutMarkers_map_warning ?_ _
  intro oddity hoddity
  rcases hkinds oddity hoddity with rfl | rfl <;> rfl

/-- A page is added with what its markers come to. -/
theorem exists_isPageOf_addPage
    (hroom : reading.pages.length < UInt32.size)
    (lambda : Lambda) (branch : Branch) (digits : List Char) (markers : List PlacedMarker) :
    ∃ page, IsPageOf reading.pages markers page ∧
      (reading.addPage lambda branch digits markers).pages = reading.pages ++ [page] := by
  have hordinal : (UInt32.ofNat reading.pages.length).toNat = reading.pages.length :=
    UInt32.toNat_ofNat_of_lt' hroom
  have haccount := accountsFor_ofMarkers reading.widgetIds markers
  rw [addPage, if_neg (Nat.not_le.mpr hroom)]
  generalize BranchContents.ofMarkers reading.widgetIds markers = contents at haccount ⊢
  refine ⟨_, ⟨hordinal, ?_, freeId_notMem _ _, ?_, haccount.widgets_eq⟩, rfl⟩
  · refine isBlankText_freeId _ ?_
    cases hidentity : contents.identity with
    | none =>
        exact isBlankText_defaultIdentity _
    | some identity =>
        rw [haccount.identity_eq] at hidentity
        obtain ⟨place, -, hplace⟩ := List.exists_of_findSome?_eq_some hidentity
        exact isBlankText_id_of_pageOf? hplace
  · rw [← haccount.identity_eq]
    cases contents.identity with
    | none =>
        simp [defaultIdentity, hordinal]
    | some identity =>
        rfl

/-- Adding a page leads to a warning for each marker that is left over; the others are about the
label. -/
theorem linesAboutMarkers_addPage
    (hroom : reading.pages.length < UInt32.size)
    (lambda : Lambda) (branch : Branch) (digits : List Char) (markers : List PlacedMarker) :
    linesAboutMarkers (reading.addPage lambda branch digits markers).warnings =
      linesAboutMarkers reading.warnings ++
        (leftOver reading.widgetIds [] markers).map fun place => some (lambda.lineOf place.1) := by
  have haccount := accountsFor_ofMarkers reading.widgetIds markers
  rw [addPage, if_neg (Nat.not_le.mpr hroom)]
  generalize BranchContents.ofMarkers reading.widgetIds markers = contents at haccount ⊢
  have hmarkers :
      linesAboutMarkers (contents.oddities.map fun odd => lambda.warning odd.1 odd.2) =
        (leftOver reading.widgetIds [] markers).map
          fun place => some (lambda.lineOf place.1) := by
    rw [linesAboutMarkers, List.filter_eq_self.mpr, List.map_map]
    · have hoffsets := congrArg (List.map fun offset => some (lambda.lineOf offset))
        haccount.offsets_eq
      simpa [List.map_map, Function.comp_def, Lambda.warning] using hoffsets
    · intro warning hwarning
      obtain ⟨odd, hodd, rfl⟩ := List.mem_map.mp hwarning
      exact haccount.aboutMarker odd hodd
  have hbefore :
      linesAboutMarkers ((labelOddity? digits (UInt32.ofNat reading.pages.length)).toList.map
        (lambda.warning branch.label.start)) = [] :=
    linesAboutMarkers_map_warning
      (fun oddity hoddity => not_isAboutMarker_labelOddity? (Option.mem_toList.mp hoddity)) _
  rw [linesAboutMarkers_append, linesAboutMarkers_append, linesAboutMarkers_append, hmarkers,
    hbefore, List.append_nil, List.append_right_eq_self]
  refine linesAboutMarkers_map_warning ?_ _
  rw [List.forall_mem_append]
  constructor
  · split <;> simp [Oddity.isAboutMarker]
  · split <;> simp [Oddity.isAboutMarker]

/-- A branch with a page label adds its page, and a warning for each marker that is left over. -/
theorem exists_isPageOf_addBranch
    (lambda : Lambda)
    (hlabel : branch.label.digits.isSome = true)
    (hroom : reading.pages.length < UInt32.size) :
    (∃ page, IsPageOf reading.pages (markersIn lambda branch) page ∧
      (reading.addBranch lambda branch).pages = reading.pages ++ [page]) ∧
    linesAboutMarkers (reading.addBranch lambda branch).warnings =
      linesAboutMarkers reading.warnings ++
        (leftOver reading.widgetIds [] (markersIn lambda branch)).map
          fun place => some (lambda.lineOf place.1) := by
  obtain ⟨digits, hdigits⟩ := Option.isSome_iff_exists.mp hlabel
  rw [addBranch_eq_addPage lambda reading hdigits]
  exact ⟨exists_isPageOf_addPage hroom lambda branch digits _,
    linesAboutMarkers_addPage hroom lambda branch digits _⟩

end PageReading

/-- The branches with a page label, as many as there are ordinals. -/
def ordinalBranches (branches : List Branch) : List Branch :=
  (branches.filter fun branch => branch.label.digits.isSome).take UInt32.size

/-- A branch without a page label, or without an ordinal left, is none of them. -/
theorem ordinalBranches_concat_of_skipped
    {branches : List Branch} {branch : Branch}
    (h : branch.label.digits = none ∨ UInt32.size ≤ (ordinalBranches branches).length) :
    ordinalBranches (branches ++ [branch]) = ordinalBranches branches := by
  rw [ordinalBranches, ordinalBranches, List.filter_append]
  cases hdigits : branch.label.digits with
  | none =>
      simp [hdigits]
  | some digits =>
      have hfull : UInt32.size ≤ (ordinalBranches branches).length := by
        rw [hdigits] at h
        simpa using h
      rw [ordinalBranches, List.length_take] at hfull
      rw [List.take_append_of_le_length (by omega)]

/-- Any other branch is the last of them. -/
theorem ordinalBranches_concat
    {branches : List Branch} {branch : Branch}
    (hlabel : branch.label.digits.isSome = true)
    (hroom : (ordinalBranches branches).length < UInt32.size) :
    ordinalBranches (branches ++ [branch]) = ordinalBranches branches ++ [branch] := by
  have hall :
      (branches.filter fun branch => branch.label.digits.isSome).length < UInt32.size := by
    rw [ordinalBranches, List.length_take] at hroom
    omega
  rw [ordinalBranches, ordinalBranches, List.filter_append, List.take_of_length_le,
    List.take_of_length_le (Nat.le_of_lt hall)]
  · simp [hlabel]
  · simp only [List.length_append, List.filter_cons, hlabel, if_true, List.filter_nil,
      List.length_singleton]
    omega

/-- The markers that are left over in branches, each with its page, after the pages `earlier`. -/
def leftOvers (lambda : Lambda) (earlier : List Page) : List (Branch × Page) → List PlacedMarker
  | [] => []
  | (branch, page) :: rest =>
    leftOver (widgetIdsOf earlier) [] (markersIn lambda branch)
      ++ leftOvers lambda (earlier ++ [page]) rest

/-- Further branches are seen behind the pages of the first ones. -/
theorem leftOvers_append
    (lambda : Lambda) (earlier : List Page) (first second : List (Branch × Page)) :
    leftOvers lambda earlier (first ++ second) =
      leftOvers lambda earlier first ++
        leftOvers lambda (earlier ++ first.map Prod.snd) second := by
  induction first generalizing earlier with
  | nil =>
      simp [leftOvers]
  | cons head rest ih =>
      obtain ⟨branch, page⟩ := head
      simp [leftOvers, ih]

/-- What has been read adds up to the branches. -/
structure AddsUpTo (lambda : Lambda) (branches : List Branch) (reading : PageReading) :
    Prop where
  length_eq : reading.pages.length = (ordinalBranches branches).length
  /-- Every page is the page of its branch, behind the pages before it. -/
  isPageOf : ∀ k page, reading.pages[k]? = some page →
    ∃ branch, (ordinalBranches branches)[k]? = some branch ∧
      IsPageOf (reading.pages.take k) (markersIn lambda branch) page
  /-- The warnings about markers are those of the markers that are left over. -/
  lines_eq : linesAboutMarkers reading.warnings =
    (leftOvers lambda [] ((ordinalBranches branches).zip reading.pages)).map
      fun place => some (lambda.lineOf place.1)

namespace AddsUpTo

variable {lambda : Lambda} {branches : List Branch} {reading : PageReading} {branch : Branch}

theorem skip
    (h : AddsUpTo lambda branches reading)
    (hskipped : branch.label.digits = none ∨ UInt32.size ≤ reading.pages.length) :
    AddsUpTo lambda (branches ++ [branch]) (reading.addBranch lambda branch) := by
  have hsame := ordinalBranches_concat_of_skipped (h.length_eq ▸ hskipped)
  obtain ⟨hpages, hlines⟩ := PageReading.addBranch_of_skipped lambda hskipped
  refine ⟨?_, ?_, ?_⟩
  · rw [hsame, hpages]
    exact h.length_eq
  · rw [hsame, hpages]
    exact h.isPageOf
  · rw [hsame, hpages, hlines]
    exact h.lines_eq

theorem add
    (h : AddsUpTo lambda branches reading)
    (hlabel : branch.label.digits.isSome = true)
    (hroom : reading.pages.length < UInt32.size) :
    AddsUpTo lambda (branches ++ [branch]) (reading.addBranch lambda branch) := by
  have hlength := h.length_eq
  have hmore := ordinalBranches_concat hlabel (hlength ▸ hroom)
  obtain ⟨⟨page, hpage, hpages⟩, hlines⟩ :=
    PageReading.exists_isPageOf_addBranch lambda hlabel hroom
  refine ⟨?_, ?_, ?_⟩
  · rw [hmore, hpages, List.length_append, List.length_append, hlength]
    rfl
  · intro k other hother
    rw [hpages] at hother ⊢
    rw [hmore]
    by_cases hk : k < reading.pages.length
    · rw [List.getElem?_append_left hk] at hother
      obtain ⟨found, hfound, hisPage⟩ := h.isPageOf k other hother
      refine ⟨found, ?_, ?_⟩
      · rw [List.getElem?_append_left (by omega)]
        exact hfound
      · rw [List.take_append_of_le_length (by omega)]
        exact hisPage
    · obtain rfl : k = reading.pages.length := by
        have hlt := (List.getElem?_eq_some_iff.mp hother).1
        rw [List.length_append, List.length_singleton] at hlt
        omega
      rw [List.getElem?_concat_length, Option.some.injEq] at hother
      refine ⟨branch, ?_, ?_⟩
      · rw [hlength, List.getElem?_concat_length]
      · rw [List.take_left, ← hother]
        exact hpage
  · have hzip :
        (ordinalBranches branches ++ [branch]).zip (reading.pages ++ [page]) =
          (ordinalBranches branches).zip reading.pages ++ [(branch, page)] := by
      rw [List.zip_append hlength.symm]
      rfl
    have hbehind :
        ((ordinalBranches branches).zip reading.pages).map Prod.snd = reading.pages :=
      List.map_snd_zip (Nat.le_of_eq hlength)
    rw [hmore, hpages, hlines, hzip, leftOvers_append, List.map_append, h.lines_eq,
      List.nil_append, hbehind, leftOvers, leftOvers, List.append_nil]
    rfl

/-- One more branch keeps the account. -/
theorem addBranch
    (h : AddsUpTo lambda branches reading)
    (branch : Branch) :
    AddsUpTo lambda (branches ++ [branch]) (reading.addBranch lambda branch) := by
  by_cases hskipped : branch.label.digits = none ∨ UInt32.size ≤ reading.pages.length
  · exact h.skip hskipped
  · rw [not_or, Nat.not_le] at hskipped
    exact h.add (Option.isSome_iff_ne_none.mpr hskipped.1) hskipped.2

end AddsUpTo

/-- **Account of all branches.** -/
theorem addsUpTo_ofBranches (lambda : Lambda) (branches : List Branch) :
    AddsUpTo lambda branches (PageReading.ofBranches lambda branches) := by
  induction branches using List.reverseRecOn with
  | nil =>
      exact ⟨rfl, by simp [PageReading.ofBranches], rfl⟩
  | append_singleton branches branch ih =>
      rw [PageReading.ofBranches_concat]
      exact ih.addBranch branch

end Snippet
end EpaperLayout
