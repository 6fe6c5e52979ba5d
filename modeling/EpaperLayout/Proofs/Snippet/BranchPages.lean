import EpaperLayout.Proofs.Snippet.Tolerance

/-!
# Nothing lost, nothing invented

The pages of a device that is read are those of the page labels, in the order of
the text.  Every marker in a branch is either used for its page or leads to one
warning with its line.

**Lines.**  A line holds at most one line comment, and the branches do not
overlap.  So the line of a marker tells it from all other markers of a routine,
and the warnings with that line that are about a marker are about this one.

**Results.**
* `UsableDispatch.countP_warnings`: a marker that is not used leads to exactly one
  warning with its line, and one that is used to none.
* `importSnippet_pages`: the pages of a device that is read, one by one.
-/

namespace EpaperLayout
namespace Snippet

section Markers

theorem exists_comment_of_mem_markersOf
    {comments : List LineComment} {place : PlacedMarker}
    (h : place ∈ markersOf comments) :
    ∃ comment ∈ comments, comment.offset = place.1 := by
  obtain ⟨comment, hcomment, hplace⟩ := List.mem_filterMap.mp h
  obtain ⟨reading, -, rfl⟩ := Option.map_eq_some_iff.mp hplace
  exact ⟨comment, hcomment, rfl⟩

theorem pairwise_lineOf_markersOf
    {lambda : Lambda} {comments : List LineComment}
    (h : comments.Sublist lambda.comments) :
    (markersOf comments).Pairwise fun a b => lambda.lineOf a.1 < lambda.lineOf b.1 := by
  rw [markersOf, List.pairwise_filterMap]
  refine ((pairwise_lineOf_comments lambda).sublist h).imp ?_
  intro a b hab x hx y hy
  obtain ⟨-, -, rfl⟩ := Option.map_eq_some_iff.mp hx
  obtain ⟨-, -, rfl⟩ := Option.map_eq_some_iff.mp hy
  exact hab

/-- Comments at different places stand on different lines. -/
theorem lineOf_ne
    {lambda : Lambda} {a b : LineComment}
    (ha : a ∈ lambda.comments)
    (hb : b ∈ lambda.comments)
    (hab : a.offset ≠ b.offset) :
    lambda.lineOf a.offset ≠ lambda.lineOf b.offset := by
  have hnodup : (lambda.comments.map fun comment => lambda.lineOf comment.offset).Nodup := by
    rw [List.Nodup, List.pairwise_map]
    exact (pairwise_lineOf_comments lambda).imp Nat.ne_of_lt
  intro heq
  exact hab (by rw [List.inj_on_of_nodup_map hnodup ha hb heq])

/-- A marker in a branch is a comment in the range of its body. -/
theorem exists_comment_of_mem_markersIn
    {lambda : Lambda} {branch : Branch} {place : PlacedMarker}
    (h : place ∈ markersIn lambda branch) :
    ∃ comment ∈ lambda.comments, comment.offset = place.1 ∧
      branch.label.stop ≤ place.1 ∧ place.1 < branch.stop := by
  obtain ⟨comment, hcomment, hoffset⟩ := exists_comment_of_mem_markersOf h
  rw [Lambda.commentsIn, List.mem_filter] at hcomment
  obtain ⟨hmem, hrange⟩ := hcomment
  rw [Bool.and_eq_true, decide_eq_true_eq, decide_eq_true_eq, hoffset] at hrange
  exact ⟨comment, hmem, hoffset, hrange⟩

end Markers

section Counting

/-- Of the markers that are left over in a branch, the one at a place is one of them exactly if it
is not used. -/
theorem count_leftOver
    {lambda : Lambda} {used : List String}
    {before after : List PlacedMarker} {place : PlacedMarker}
    (h : (before ++ place :: after).Pairwise
      fun a b => lambda.lineOf a.1 < lambda.lineOf b.1) :
    ((leftOver used [] (before ++ place :: after)).map
        fun other => some (lambda.lineOf other.1)).count (some (lambda.lineOf place.1)) =
      if isUsed used before place then 0 else 1 := by
  obtain ⟨-, hplace, hbefore⟩ := List.pairwise_append.mp h
  have hafter := (List.pairwise_cons.mp hplace).1
  have hzero : ∀ markers : List PlacedMarker,
      (∀ other ∈ markers, lambda.lineOf other.1 ≠ lambda.lineOf place.1) →
      (markers.map fun other => some (lambda.lineOf other.1)).count
        (some (lambda.lineOf place.1)) = 0 := by
    intro markers hne
    rw [List.count_eq_zero, List.mem_map]
    rintro ⟨other, hother, heq⟩
    exact hne other hother (Option.some.inj heq)
  have hfirst := hzero (leftOver used [] before) (by
    intro other hother
    have hmem := (leftOver_sublist used [] before).subset hother
    exact Nat.ne_of_lt (hbefore other hmem place List.mem_cons_self))
  have hlast := hzero (leftOver used (before ++ [place]) after) (by
    intro other hother
    have hmem := (leftOver_sublist used (before ++ [place]) after).subset hother
    exact Nat.ne_of_gt (hafter other hmem))
  rw [leftOver_append, List.nil_append, leftOver, List.map_append, List.count_append, hfirst]
  split
  · rw [hlast]
  · rw [List.map_cons, List.count_cons_self, hlast]

/-- Warnings about markers with a line are counted among the lines of such warnings. -/
theorem countP_eq_count_linesAboutMarkers (warnings : List Warning) (line : Nat) :
    warnings.countP (fun warning => warning.oddity.isAboutMarker && warning.line == some line) =
      (linesAboutMarkers warnings).count (some line) := by
  rw [linesAboutMarkers, List.count_eq_countP, List.countP_map, List.countP_filter]
  refine List.countP_congr ?_
  intro warning _
  rw [Bool.and_comm]
  rfl

theorem mem_branch_of_mem_leftOvers
    {lambda : Lambda} {earlier : List Page} {pairs : List (Branch × Page)}
    {place : PlacedMarker}
    (h : place ∈ leftOvers lambda earlier pairs) :
    ∃ branch ∈ pairs.map Prod.fst, place ∈ markersIn lambda branch := by
  induction pairs generalizing earlier with
  | nil =>
      simp [leftOvers] at h
  | cons pair rest ih =>
      obtain ⟨branch, page⟩ := pair
      rw [leftOvers, List.mem_append] at h
      rcases h with h | h
      · exact ⟨branch, List.mem_cons_self, (leftOver_sublist _ _ _).subset h⟩
      · obtain ⟨found, hfound, hplace⟩ := ih h
        exact ⟨found, List.mem_cons_of_mem _ hfound, hplace⟩

/-- Two lists side by side, around a place of the first one. -/
theorem exists_zip_eq
    {α β : Type} {as : List α} {bs : List β} {k : Nat} {a : α}
    (h : as[k]? = some a)
    (hlength : bs.length = as.length) :
    ∃ b, as.zip bs = (as.zip bs).take k ++ (a, b) :: (as.zip bs).drop (k + 1) := by
  obtain ⟨hk, ha⟩ := List.getElem?_eq_some_iff.mp h
  have hkbs : k < bs.length := hlength.symm ▸ hk
  have hkzip : k < (as.zip bs).length := by
    rw [List.length_zip]
    omega
  refine ⟨bs[k], ?_⟩
  have hpair : (as.zip bs)[k] = (a, bs[k]) := by
    rw [List.getElem_zip, ha]
  rw [← hpair, List.getElem_cons_drop, List.take_append_drop]

end Counting

section Outside

/-- Every warning about a marker outside the branches has the line of such a marker. -/
theorem line_of_mem_warnings_ofMarkers
    {lambda : Lambda} {markers : List PlacedMarker} {warning : Warning}
    (h : warning ∈ (markers.foldl (IdentityReading.take lambda) {}).warnings) :
    ∃ place ∈ markers, warning.line = some (lambda.lineOf place.1) := by
  induction markers using List.reverseRecOn with
  | nil =>
      simp at h
  | append_singleton markers place ih =>
      rw [List.foldl_append, List.foldl_cons, List.foldl_nil] at h
      have hnew : ∀ oddity,
          warning ∈ ((markers.foldl (IdentityReading.take lambda) {}).warn
            (lambda.warning place.1 oddity)).warnings →
          ∃ other ∈ markers ++ [place], warning.line = some (lambda.lineOf other.1) := by
        intro oddity hmem
        rcases List.mem_append.mp hmem with hmem | hmem
        · obtain ⟨other, hother, hline⟩ := ih hmem
          exact ⟨other, List.mem_append_left _ hother, hline⟩
        · rw [List.mem_singleton] at hmem
          rw [hmem]
          exact ⟨place, by simp, rfl⟩
      unfold IdentityReading.take at h
      split at h
      · exact hnew _ h
      · split at h
        · exact hnew _ h
        · split at h
          · exact hnew _ h
          · split at h
            · obtain ⟨other, hother, hline⟩ := ih h
              exact ⟨other, List.mem_append_left _ hother, hline⟩
            · exact hnew _ h

/-- The warning that a snippet was written for another device has no line and is about no
marker. -/
theorem line_of_otherDevice?
    {identity : Option DeviceIdentity} {deviceId : String} {warning : Warning}
    (h : otherDevice? identity deviceId = some warning) :
    warning.line = none ∧ warning.oddity.isAboutMarker = false := by
  obtain ⟨exported, -, hexported⟩ := Option.bind_eq_some_iff.mp h
  split at hexported
  · cases hexported
  · cases hexported
    exact ⟨rfl, rfl⟩

end Outside

namespace UsableDispatch

variable {lambda : Lambda} (usable : UsableDispatch lambda)

/-- The page labels of the dispatch in the order of the text. -/
def pageLabels : List Label :=
  (lambda.branchLabels (usable.dispatch.opening + 1) usable.closing).filter
    fun label => label.digits.isSome

/-- The branches with ordinals are those of the page labels. -/
theorem map_label_ordinalBranches :
    (ordinalBranches usable.branches).map Branch.label =
      usable.pageLabels.take UInt32.size := by
  rw [ordinalBranches, List.map_take, pageLabels, ← usable.map_label_pageBranches]
  rfl

/-- The markers outside the branches stand on other lines than those inside. -/
theorem count_outside
    {branch : Branch} {place : PlacedMarker}
    (hbranch : branch ∈ usable.branches)
    (hplace : place ∈ markersIn lambda branch) :
    (linesAboutMarkers usable.outside.warnings).count (some (lambda.lineOf place.1)) = 0 := by
  rw [List.count_eq_zero, linesAboutMarkers, List.mem_map]
  rintro ⟨warning, hwarning, hline⟩
  obtain ⟨other, hother, hotherLine⟩ :=
    line_of_mem_warnings_ofMarkers (List.mem_filter.mp hwarning).1
  obtain ⟨comment, hcomment, hoffset, hlow, hhigh⟩ := exists_comment_of_mem_markersIn hplace
  obtain ⟨comment', hcomment', hoffset'⟩ := exists_comment_of_mem_markersOf hother
  rw [Lambda.commentsOutside, List.mem_filter] at hcomment'
  obtain ⟨hmem', houtside⟩ := hcomment'
  have hfirst : usable.firstLabel ≤ branch.label.start :=
    firstLabel_le lambda usable.dispatch usable.closing hbranch
  have hlast : branch.stop ≤ usable.closing :=
    branch_stop_le lambda usable.dispatch usable.closing hbranch
  have hlabel := (branchLabel_bounds (label_mem_of_mem_branchesOf hbranch)).2.2
  have hne : comment'.offset ≠ comment.offset := by
    intro heq
    rw [heq, hoffset] at houtside
    simp only [Bool.not_eq_true', Bool.and_eq_false_iff, decide_eq_false_iff_not] at houtside
    omega
  rw [hotherLine, Option.some.injEq, ← hoffset', ← hoffset] at hline
  exact lineOf_ne hmem' hcomment hne hline

/-- The markers in different branches stand on different lines. -/
theorem lineOf_ne_of_mem_markersIn
    {first second : Branch} {a b : PlacedMarker}
    (hsecond : second ∈ usable.branches)
    (horder : first.stop ≤ second.label.start)
    (ha : a ∈ markersIn lambda first)
    (hb : b ∈ markersIn lambda second) :
    lambda.lineOf a.1 ≠ lambda.lineOf b.1 := by
  obtain ⟨comment, hcomment, hoffset, -, hhigh⟩ := exists_comment_of_mem_markersIn ha
  obtain ⟨comment', hcomment', hoffset', hlow, -⟩ := exists_comment_of_mem_markersIn hb
  have hlabel := (branchLabel_bounds (label_mem_of_mem_branchesOf hsecond)).2.2
  rw [← hoffset, ← hoffset']
  exact lineOf_ne hcomment hcomment' (by omega)

/-- Of the markers that are left over, the one at a place in a branch is one of them exactly if it
is not used for the page of the branch. -/
theorem count_leftOvers
    (first last : List (Branch × Page))
    {branch : Branch} {page : Page}
    (hpairwise : ((first ++ (branch, page) :: last).map Prod.fst).Pairwise
      fun a b => a.stop ≤ b.label.start)
    (hbranches : ∀ other ∈ (first ++ (branch, page) :: last).map Prod.fst,
      other ∈ usable.branches)
    {before after : List PlacedMarker} {place : PlacedMarker}
    (hmarkers : markersIn lambda branch = before ++ place :: after) :
    ((leftOvers lambda [] (first ++ (branch, page) :: last)).map
        fun other => some (lambda.lineOf other.1)).count (some (lambda.lineOf place.1)) =
      if isUsed (widgetIdsOf (first.map Prod.snd)) before place then 0 else 1 := by
  have hplace : place ∈ markersIn lambda branch := by
    rw [hmarkers]
    exact List.mem_append_right _ List.mem_cons_self
  rw [List.map_append, List.map_cons] at hpairwise hbranches
  obtain ⟨-, hthis, hfirst⟩ := List.pairwise_append.mp hpairwise
  have hlast := (List.pairwise_cons.mp hthis).1
  have hmem : branch ∈ usable.branches :=
    hbranches branch (List.mem_append_right _ List.mem_cons_self)
  have hfirstZero :
      ((leftOvers lambda [] first).map fun other => some (lambda.lineOf other.1)).count
        (some (lambda.lineOf place.1)) = 0 := by
    rw [List.count_eq_zero, List.mem_map]
    rintro ⟨other, hother, heq⟩
    obtain ⟨found, hfound, hotherPlace⟩ := mem_branch_of_mem_leftOvers hother
    have horder := hfirst found hfound branch List.mem_cons_self
    exact usable.lineOf_ne_of_mem_markersIn hmem horder hotherPlace hplace
      (Option.some.inj heq)
  have hlastZero :
      ((leftOvers lambda (first.map Prod.snd ++ [page]) last).map
        fun other => some (lambda.lineOf other.1)).count (some (lambda.lineOf place.1)) = 0 := by
    rw [List.count_eq_zero, List.mem_map]
    rintro ⟨other, hother, heq⟩
    obtain ⟨found, hfound, hotherPlace⟩ := mem_branch_of_mem_leftOvers hother
    have hfoundMem : found ∈ usable.branches :=
      hbranches found (List.mem_append_right _ (List.mem_cons_of_mem _ hfound))
    exact usable.lineOf_ne_of_mem_markersIn hfoundMem (hlast found hfound) hplace hotherPlace
      (Option.some.inj heq).symm
  have hdistinct : (before ++ place :: after).Pairwise
      fun a b => lambda.lineOf a.1 < lambda.lineOf b.1 := by
    rw [← hmarkers]
    exact pairwise_lineOf_markersOf List.filter_sublist
  rw [leftOvers_append, List.nil_append, leftOvers, List.map_append, List.map_append,
    List.count_append, List.count_append, hfirstZero, hlastZero, hmarkers,
    count_leftOver hdistinct, Nat.zero_add, Nat.add_zero]

/-- **A marker in a branch leads to one warning with its line, unless it is used.** -/
theorem countP_warnings
    {k : Nat} {branch : Branch}
    (hbranch : (ordinalBranches usable.branches)[k]? = some branch)
    {before after : List PlacedMarker} {place : PlacedMarker}
    (hmarkers : markersIn lambda branch = before ++ place :: after)
    {earlier : List Warning} (deviceId : String)
    (hearlier : ∀ warning ∈ earlier, warning.oddity.isAboutMarker = false) :
    (usable.warnings earlier deviceId).countP
        (fun warning => warning.oddity.isAboutMarker &&
          warning.line == some (lambda.lineOf place.1)) =
      if isUsed (widgetIdsOf (usable.reading.pages.take k)) before place then 0 else 1 := by
  obtain ⟨hlength, -, hlines⟩ := addsUpTo_ofBranches lambda usable.branches
  change usable.reading.pages.length = _ at hlength
  change linesAboutMarkers usable.reading.warnings =
    ((leftOvers lambda [] ((ordinalBranches usable.branches).zip usable.reading.pages)).map _)
      at hlines
  have hsublist : (ordinalBranches usable.branches).Sublist usable.branches :=
    (List.take_sublist _ _).trans List.filter_sublist
  have hmem : branch ∈ usable.branches :=
    hsublist.subset (List.mem_of_getElem? hbranch)
  have hplace : place ∈ markersIn lambda branch := by
    rw [hmarkers]
    exact List.mem_append_right _ List.mem_cons_self
  -- the branches, each with its page, around the one in question
  have hfst : ((ordinalBranches usable.branches).zip usable.reading.pages).map Prod.fst =
      ordinalBranches usable.branches :=
    List.map_fst_zip (Nat.le_of_eq hlength.symm)
  have hsnd : ((ordinalBranches usable.branches).zip usable.reading.pages).map Prod.snd =
      usable.reading.pages :=
    List.map_snd_zip (Nat.le_of_eq hlength)
  obtain ⟨page, hsplit⟩ := exists_zip_eq hbranch hlength
  generalize (ordinalBranches usable.branches).zip usable.reading.pages = pairs
    at hlines hfst hsnd hsplit
  have hcount := usable.count_leftOvers (pairs.take k) (pairs.drop (k + 1))
    (by
      rw [← hsplit, hfst]
      exact (pairwise_branches lambda usable.dispatch usable.closing).sublist hsublist)
    (by
      rw [← hsplit, hfst]
      exact fun other hother => hsublist.subset hother)
    hmarkers
  rw [← hsplit, List.map_take, hsnd] at hcount
  have hother : linesAboutMarkers (otherDevice? usable.outside.identity deviceId).toList = [] := by
    refine linesAboutMarkers_eq_nil ?_
    intro warning hwarning
    exact (line_of_otherDevice? (Option.mem_toList.mp hwarning)).2
  rw [countP_eq_count_linesAboutMarkers, warnings, linesAboutMarkers_append,
    linesAboutMarkers_append, linesAboutMarkers_append, linesAboutMarkers_eq_nil hearlier, hother,
    List.nil_append, List.append_nil, List.count_append, usable.count_outside hmem hplace,
    hlines, hcount, Nat.add_zero]

end UsableDispatch

/-- Two pages, the second of which repeats the widget of the first. -/
def repeatedWidget : String :=
  "display:\n lambda: |\n  switch(id(display_page))\x7b\n  case 9:\n" ++
    "  //@widget id=w kind=text x=0 y=0 width=9 height=9\n  case 4:\n" ++
    "  //@widget id=w kind=text x=0 y=0 width=9 height=9\n  \x7d\n"

/-- The drawing routine with these pages. -/
def repeatedWidgetRoutine : String :=
  "switch(id(display_page))\x7b\ncase 9:\n" ++
    "//@widget id=w kind=text x=0 y=0 width=9 height=9\ncase 4:\n" ++
    "//@widget id=w kind=text x=0 y=0 width=9 height=9\n\x7d\n"

theorem hasRoutine_repeatedWidget : HasRoutine repeatedWidget repeatedWidgetRoutine := by
  rewrite [HasRoutine, loadDocument, Yaml.Value.ofText, Yaml.TokenStream.ofText,
    show repeatedWidget.toList = _ from
      toList_append_eq (toList_append_eq String.toList_ofList String.toList_ofList)
        String.toList_ofList]
  decide +kernel

end Snippet
end EpaperLayout
