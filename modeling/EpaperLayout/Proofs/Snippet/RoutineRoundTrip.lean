import EpaperLayout.Proofs.Snippet.CommentLines
import EpaperLayout.Proofs.Snippet.UsableDispatch

/-!
# Routines are read back

The routine of a device without violations is read back as the device without the
widgets whose comments are damaged.  Each damaged comment leads to one warning that
names its line, and nothing else about the routine is odd.

**Input.**  A device without violations with the lines for its widgets, the number
of the first line of its routine, and the identifier under which it is read.

**Step.**
* `exists_ofMarkers_of_page`: the comments of a page give its title and its widgets.
* `exists_addBranch_of_page`: its branch adds the page behind the pages before it.

**Run.**
* `exists_foldl_addBranch_routineOf`: the branches add all pages.
* `exists_reading_usableRoutine`: the device is read back, with the warnings.
-/

namespace EpaperLayout
namespace Snippet

variable (marking : Marking)

/-- The page without the widgets whose comments are damaged. -/
def Marking.keep (page : Page) : Page :=
  { page with widgets := page.widgets.filter fun widget => !marking.isDamaged widget }

section Contents

/-- A marker that describes no widget is noted. -/
theorem exists_take_of_describesNoWidget
    {outcome : Except FieldError Marker}
    (h : DescribesNoWidget outcome)
    (used : List String)
    (contents : BranchContents)
    (offset : Nat) :
    ∃ oddity, BranchContents.take used contents (offset, outcome) =
      contents.note offset oddity := by
  cases outcome with
  | error error =>
      exact ⟨.malformedMarker error, rfl⟩
  | ok marker =>
      obtain ⟨htag, error, hwidget⟩ := h
      refine ⟨.malformedData .widget error, ?_⟩
      simp [BranchContents.take, htag, BranchContents.takeWidget, hwidget]

/-- A widget without violations is taken. -/
theorem take_of_widget
    {ordinal : UInt32} {used : List String} {contents : BranchContents} {widget : Widget}
    (h : widget.violations ordinal (used ++ contents.widgets.map Widget.id) = [])
    (offset : Nat) :
    BranchContents.take used contents (offset, .ok (markerOfWidget widget)) =
      { contents with widgets := contents.widgets ++ [widget] } := by
  rw [Widget.violations_eq_nil_iff, List.mem_append, not_or] at h
  obtain ⟨hflaws, hnew⟩ := h
  have hproblems : widget.problems.isEmpty = true := by
    rw [List.isEmpty_iff, Widget.problems_eq_nil_iff, hflaws]
  change BranchContents.takeWidget used contents offset (markerOfWidget widget) = _
  simp [BranchContents.takeWidget, widget_markerOfWidget, hproblems, hnew]

/-- Widgets without violations are taken one after the other, if their comments are not damaged;
the damaged comments are noted. -/
theorem exists_foldl_take_widgets
    {ordinal : UInt32} {used : List String}
    (places : List (Nat × Widget))
    (contents : BranchContents)
    (hviolations :
      Page.widgetViolations ordinal (used ++ contents.widgets.map Widget.id)
        ((places.map Prod.snd).filter fun widget => !marking.isDamaged widget) = []) :
    ∃ noted, (places.map fun place => (place.1, marking.outcome place.2)).foldl
          (BranchContents.take used) contents =
        { contents with
          widgets := contents.widgets ++
            (places.map Prod.snd).filter fun widget => !marking.isDamaged widget
          oddities := contents.oddities ++ noted } ∧
      noted.map Prod.fst = (marking.damagedPlaces places).map Prod.fst := by
  induction places generalizing contents with
  | nil =>
      exact ⟨[], by simp, rfl⟩
  | cons place rest ih =>
      obtain ⟨offset, widget⟩ := place
      rw [List.map_cons, List.filter_cons] at hviolations
      rw [List.map_cons, List.foldl_cons]
      cases hdamaged : marking.isDamaged widget with
      | true =>
          rw [hdamaged, Bool.not_true, if_neg Bool.false_ne_true] at hviolations
          obtain ⟨oddity, hnote⟩ := exists_take_of_describesNoWidget
            (describesNoWidget_outcome marking hdamaged) used contents offset
          obtain ⟨noted, hfold, hoffsets⟩ := ih (contents.note offset oddity) hviolations
          refine ⟨(offset, oddity) :: noted, ?_, ?_⟩
          · rw [hnote, hfold]
            simp [BranchContents.note, hdamaged]
          · rw [List.map_cons, hoffsets]
            simp [Marking.damagedPlaces, hdamaged]
      | false =>
          rw [hdamaged, Bool.not_false, if_pos rfl, Page.widgetViolations,
            List.append_eq_nil_iff] at hviolations
          obtain ⟨hwidget, hrest⟩ := hviolations
          have htake := take_of_widget hwidget offset
          obtain ⟨noted, hfold, hoffsets⟩ :=
            ih { contents with widgets := contents.widgets ++ [widget] } (by simpa using hrest)
          refine ⟨noted, ?_, ?_⟩
          · rw [outcome_of_intact marking hdamaged, htake, hfold]
            simp [hdamaged]
          · rw [hoffsets]
            simp [Marking.damagedPlaces, hdamaged]

theorem map_snd_widgetPlaces (offset : Nat) (widgets : List Widget) :
    (marking.widgetPlaces offset widgets).map Prod.snd = widgets := by
  induction widgets generalizing offset with
  | nil =>
      rfl
  | cons widget rest ih =>
      rw [Marking.widgetPlaces, List.map_cons, ih]

/-- The comments of a page give its title and its widgets. -/
theorem exists_ofMarkers_of_page
    {used : List String} {page : Page} {markers : List PlacedMarker} {first start : Nat}
    (hid : Text.isBlankText page.id = false)
    (hwidgets : Page.widgetViolations page.ordinal used (marking.keep page).widgets = [])
    (hmarkers : markers = (first, .ok (markerOfPage page)) ::
      (marking.widgetPlaces start page.widgets).map
        fun place => (place.1, marking.outcome place.2)) :
    ∃ noted, BranchContents.ofMarkers used markers =
        { identity := some { id := page.id, title := page.title }
          widgets := (marking.keep page).widgets
          oddities := noted } ∧
      noted.map Prod.fst =
        (marking.damagedPlaces (marking.widgetPlaces start page.widgets)).map Prod.fst := by
  have htake : BranchContents.take used {} (first, .ok (markerOfPage page)) =
      { identity := some { id := page.id, title := page.title } } := by
    change BranchContents.takePage {} first (markerOfPage page) = _
    simp [BranchContents.takePage, page_markerOfPage hid]
  have hviolations : Page.widgetViolations page.ordinal (used ++ [].map Widget.id)
      (((marking.widgetPlaces start page.widgets).map Prod.snd).filter
        fun widget => !marking.isDamaged widget) = [] := by
    rw [List.map_nil, List.append_nil, map_snd_widgetPlaces]
    exact hwidgets
  obtain ⟨noted, hfold, hoffsets⟩ := exists_foldl_take_widgets marking
    (marking.widgetPlaces start page.widgets)
    { identity := some { id := page.id, title := page.title } } hviolations
  refine ⟨noted, ?_, hoffsets⟩
  rw [BranchContents.ofMarkers, hmarkers, List.foldl_cons, htake, hfold, map_snd_widgetPlaces]
  rfl

end Contents

section Pages

/-- The branch of a page without violations adds the page, and only its damaged comments are
odd. -/
theorem exists_addBranch_of_page
    {lambda : Lambda} {branch : Branch} {done : List Page} {page : Page} {first start : Nat}
    (hpage : (marking.keep page).violations done = [])
    (hdigits : branch.label.digits = some (Nat.toDigits 10 page.ordinal.toNat))
    (hmarkers : markersIn lambda branch = (first, .ok (markerOfPage page)) ::
      (marking.widgetPlaces start page.widgets).map
        fun place => (place.1, marking.outcome place.2))
    (warnings : List Warning) :
    ∃ noted, PageReading.addBranch lambda { pages := done, warnings } branch =
        { pages := done ++ [marking.keep page], warnings := warnings ++ noted } ∧
      noted.map Warning.line =
        (marking.damagedPlaces (marking.widgetPlaces start page.widgets)).map
          fun place => some (lambda.lineOf place.1) := by
  rw [Page.violations_eq_nil_iff] at hpage
  obtain ⟨hposition, hid, hnew, hwidgets⟩ := hpage
  change page.ordinal.toNat = done.length at hposition
  change Text.isBlankText page.id = false at hid
  have hroom : ¬UInt32.size ≤ done.length := by
    have hlt := page.ordinal.toNat_lt
    have hsize : UInt32.size = 2 ^ 32 := rfl
    omega
  have hordinal : UInt32.ofNat done.length = page.ordinal := by
    rw [← hposition, UInt32.ofNat_toNat]
  obtain ⟨noted, hcontents, hoffsets⟩ := exists_ofMarkers_of_page marking hid hwidgets hmarkers
  have hlabel : PageReading.labelOddity? (Nat.toDigits 10 page.ordinal.toNat) page.ordinal =
      none := by
    rw [PageReading.labelOddity?, Text.uint32?_toDigits]
    exact if_pos rfl
  have hfree : freeId (PageReading.mk done warnings).pageIds page.id = page.id :=
    freeId_of_notMem hnew
  refine ⟨noted.map fun odd => lambda.warning odd.1 odd.2, ?_, ?_⟩
  · rw [PageReading.addBranch, hdigits]
    change PageReading.addPage lambda { pages := done, warnings } branch _
      (markersIn lambda branch) = _
    rw [PageReading.addPage, if_neg hroom]
    change BranchContents.ofMarkers (PageReading.mk done warnings).widgetIds _ = _ at hcontents
    simp only [hordinal, hcontents, hlabel, hfree, Option.getD_some]
    simp [Marking.keep]
  · have hlines : (noted.map Prod.fst).map (fun offset => some (lambda.lineOf offset)) =
        (noted.map fun odd => lambda.warning odd.1 odd.2).map Warning.line := by
      rw [List.map_map, List.map_map]
      rfl
    rw [← hlines, hoffsets, List.map_map]
    rfl

/-- The first branch of some pages reaches to the label of the next page, or to the end. -/
theorem exists_branchesOf_labelsOf_cons
    {closing offset : Nat} {page : Page} {rest : List Page}
    (hclosing : closing = offset + Text.byteSize ((page :: rest).flatMap marking.maskedPage)) :
    ∃ stop, offset + Text.byteSize (marking.maskedPage page) ≤ stop ∧
      stop ≤ offset + Text.byteSize (marking.maskedPage page) + 2 ∧
      branchesOf closing (marking.labelsOf offset (page :: rest)) =
        { label := labelOf offset page, stop } ::
          branchesOf closing
            (marking.labelsOf (offset + Text.byteSize (marking.maskedPage page)) rest) := by
  cases rest with
  | nil =>
      rw [List.flatMap_singleton] at hclosing
      exact ⟨closing, Nat.le_of_eq hclosing.symm, by omega, rfl⟩
  | cons next rest =>
      exact ⟨offset + Text.byteSize (marking.maskedPage page) + 2, by omega, Nat.le_refl _, rfl⟩

/-- Leaving out the widgets with damaged comments brings no violations. -/
theorem violations_keep
    {before : List Page} {page : Page}
    (h : page.violations before = []) :
    (marking.keep page).violations (before.map marking.keep) = [] := by
  rw [Page.violations_eq_nil_iff] at h ⊢
  obtain ⟨hposition, hid, hnew, hwidgets⟩ := h
  have hids : (before.map marking.keep).map Page.id = before.map Page.id := by
    rw [List.map_map]
    rfl
  have hused : ((before.map marking.keep).flatMap Page.widgets).map Widget.id ⊆
      (before.flatMap Page.widgets).map Widget.id := by
    refine List.map_subset _ ?_
    intro widget hwidget
    obtain ⟨_, hkept, hmem⟩ := List.mem_flatMap.mp hwidget
    obtain ⟨other, hother, rfl⟩ := List.mem_map.mp hkept
    exact List.mem_flatMap.mpr ⟨other, hother, List.mem_of_mem_filter hmem⟩
  refine ⟨?_, hid, ?_, ?_⟩
  · rw [List.length_map]
    exact hposition
  · rw [hids]
    exact hnew
  · exact Page.widgetViolations_eq_nil_of_sublist List.filter_sublist hused hwidgets

/-- **The branches add all pages, one after the other.** -/
theorem exists_foldl_addBranch_routineOf
    {device : Device} {before rest : List Page}
    (firstLine : Nat)
    (hpages : device.pages = before ++ rest)
    (hrest : Device.pageViolations before rest = [])
    (warnings : List Warning) :
    ∃ noted, (branchesOf (marking.closingOf device)
        (marking.labelsOf
          (pagesStart device + Text.byteSize (before.flatMap marking.maskedPage)) rest)).foldl
          (PageReading.addBranch (marking.routineOf device firstLine))
          { pages := before.map marking.keep, warnings } =
        { pages := (before ++ rest).map marking.keep, warnings := warnings ++ noted } ∧
      noted.map Warning.line =
        (marking.damagedPageLines (pageLine firstLine before) rest).map some := by
  induction rest generalizing before warnings with
  | nil =>
      refine ⟨[], ?_, rfl⟩
      rw [List.append_nil, List.append_nil]
      rfl
  | cons page rest ih =>
      have hsize : pagesStart device + Text.byteSize ((before ++ [page]).flatMap
          marking.maskedPage) =
          pagesStart device + Text.byteSize (before.flatMap marking.maskedPage)
            + Text.byteSize (marking.maskedPage page) := by
        rw [List.flatMap_append, List.flatMap_singleton, Text.byteSize_append, Nat.add_assoc]
      have hclosing : marking.closingOf device =
          pagesStart device + Text.byteSize (before.flatMap marking.maskedPage)
            + Text.byteSize ((page :: rest).flatMap marking.maskedPage) := by
        rw [Marking.closingOf, hpages, List.flatMap_append, Text.byteSize_append, Nat.add_assoc]
      obtain ⟨stop, hlow, hhigh, hbranches⟩ := exists_branchesOf_labelsOf_cons marking hclosing
      rw [← hsize] at hlow hhigh hbranches
      have hcomments := commentsIn_routineOf marking firstLine hpages hlow hhigh
      have hlines := map_lineOf_widgetPlaces marking firstLine hpages
      obtain ⟨first, hread⟩ := exists_markersOf_pageComments marking
        (pagesStart device + Text.byteSize (before.flatMap marking.maskedPage)) page
      have hmarkers : markersIn (marking.routineOf device firstLine)
          { label := labelOf (pagesStart device
              + Text.byteSize (before.flatMap marking.maskedPage)) page
            stop := stop } = _ := (congrArg markersOf hcomments).trans hread
      rw [Device.pageViolations, List.append_eq_nil_iff] at hrest
      obtain ⟨noted, hadd, hnoted⟩ := exists_addBranch_of_page marking
        (violations_keep marking hrest.1) rfl hmarkers warnings
      have hpages' : device.pages = (before ++ [page]) ++ rest := by
        rw [hpages]
        simp
      obtain ⟨others, hothers, hothersLines⟩ := ih hpages' hrest.2 (warnings ++ noted)
      rw [List.map_append, List.map_singleton, List.append_assoc before, List.singleton_append,
        List.append_assoc warnings] at hothers
      have hnext : pageLine firstLine (before ++ [page]) =
          pageLine firstLine before + pageLineCount page := by
        rw [pageLine, pageLine, List.map_append, List.sum_append, List.map_singleton,
          List.sum_singleton, Nat.add_assoc (firstLine + 2)]
      refine ⟨noted ++ others, ?_, ?_⟩
      · rw [hbranches, List.foldl_cons, hadd, hothers]
      · rw [List.map_append, hnoted, hothersLines, hnext, Marking.damagedPageLines,
          List.map_append, ← hlines, List.map_map]
        rfl

end Pages

section Routine

variable {device : Device} (hpages : device.pages ≠ []) (firstLine : Nat)

/-- The routine of a device with pages has a usable dispatch. -/
def usableRoutine : UsableDispatch (marking.routineOf device firstLine) where
  dispatch := dispatchOf device
  closing := marking.closingOf device
  found := dispatch?_routineOf marking device firstLine
  closed := matchingBrace?_routineOf marking device firstLine
  pageLabel := by
    obtain ⟨page, rest, heq⟩ := List.exists_cons_of_ne_nil hpages
    refine ⟨labelOf (pagesStart device) page, ?_, rfl⟩
    rw [branchLabels_routineOf, heq, Marking.labelsOf]
    exact List.mem_cons_self

theorem branches_usableRoutine :
    (usableRoutine marking hpages firstLine).branches =
      branchesOf (marking.closingOf device)
        (marking.labelsOf (pagesStart device) device.pages) := by
  change branchesOf (marking.closingOf device)
    ((marking.routineOf device firstLine).branchLabels ((dispatchOf device).opening + 1)
      (marking.closingOf device)) = _
  rw [branchLabels_routineOf]

/-- **All pages are read, and only damaged comments are odd.** -/
theorem exists_reading_usableRoutine
    (hvalid : Device.pageViolations [] device.pages = []) :
    ∃ noted, (usableRoutine marking hpages firstLine).reading =
        { pages := device.pages.map marking.keep, warnings := noted } ∧
      noted.map Warning.line =
        (marking.damagedPageLines (firstLine + 2) device.pages).map some := by
  obtain ⟨noted, hrun, hlines⟩ := exists_foldl_addBranch_routineOf marking firstLine
    (List.nil_append device.pages).symm hvalid []
  rw [List.flatMap_nil, Text.byteSize_nil, Nat.add_zero, List.nil_append, List.nil_append] at hrun
  refine ⟨noted, ?_, hlines⟩
  rw [UsableDispatch.reading, branches_usableRoutine]
  exact hrun

theorem firstLabel_usableRoutine :
    (usableRoutine marking hpages firstLine).firstLabel = pagesStart device + 2 := by
  obtain ⟨page, rest, heq⟩ := List.exists_cons_of_ne_nil hpages
  have hclosing : marking.closingOf device =
      pagesStart device + Text.byteSize ((page :: rest).flatMap marking.maskedPage) := by
    rw [Marking.closingOf, heq]
  obtain ⟨stop, -, -, hbranches⟩ := exists_branchesOf_labelsOf_cons marking hclosing
  rw [UsableDispatch.firstLabel, branches_usableRoutine, heq, hbranches, List.head?_cons,
    Option.map_some, Option.getD_some, labelOf]

/-- **The identity of the device is read, and nothing about it is odd.** -/
theorem outside_usableRoutine :
    (usableRoutine marking hpages firstLine).outside =
      { identity := some { id := some device.id, name := some device.name } } := by
  have hmarker : Marker.ofComment (markerBody .device (deviceFields device)) =
      some (.ok (markerOfDevice device)) := by
    have hkeys : ((deviceFields device).map fun field => field.pair.1).Nodup := by
      change ["id", "name"].Nodup
      decide
    exact ofComment_markerBody .device (sound_deviceFields device) hkeys
  rw [UsableDispatch.outside, firstLabel_usableRoutine, IdentityReading.ofLambda]
  change (markersOf ((marking.routineOf device firstLine).commentsOutside (pagesStart device + 2)
    (marking.closingOf device + 1))).foldl _ _ = _
  rw [commentsOutside_routineOf, markersOf, List.filterMap_cons, List.filterMap_nil]
  simp only [hmarker, Option.map_some, List.foldl_cons, List.foldl_nil]
  rfl

end Routine

end Snippet
end EpaperLayout
