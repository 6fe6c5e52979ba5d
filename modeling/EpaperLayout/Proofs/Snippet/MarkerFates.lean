import EpaperLayout.Proofs.Snippet.BranchPages
import EpaperLayout.Proofs.Snippet.HandEdits
import EpaperLayout.Proofs.Snippet.VisiblePlaces

/-!
# The fate of every marker

Wherever a marker stands in a routine from which a layout is read, it is used or
there is a warning because of it, unless it stands inside the label of a branch.

**Regions.**  The labels and bodies of the branches lie one behind the other up to
the brace that closes the dispatch, and no comment stands at that brace.  So a
comment that is not outside the branches stands in a label or in a body.

**Step.**
* `IdentityReading.AccountsFor.take`: a marker outside the branches identifies the
  device or is reported.
* `PageReading.warnings_prefix_ofBranches`: no warning about a branch is lost.

**Results.**
* `exists_branch_of_mem_comments`: the region of a comment.
* `UsableDispatch.hasFate`, `importSnippet_fates`: every marker has its fate.
* `importSnippet_markerInLabel`: a marker inside a label is lost.
-/

namespace EpaperLayout
namespace Snippet

section Regions

/-- No comment stands at the brace that closes a block. -/
theorem offset_ne_of_matchingBrace?
    {lambda : Lambda} {opening closing : Nat} {comment : LineComment}
    (hclosed : lambda.matchingBrace? opening = some closing)
    (h : comment ∈ lambda.comments) :
    comment.offset ≠ closing := by
  obtain ⟨-, place, hplace, hoffset, hchar⟩ := exists_mem_of_matchingBrace? hclosed
  -- a comment is blank in the code
  have hblank : { offset := comment.offset, char := ' ' } ∈ lambda.code :=
    mem_locate_of_mem_lineCommentsFrom byteSize_masked_piece (fun _ => rfl) h
  have hnodup : (lambda.code.map Located.offset).Nodup := by
    rw [List.Nodup, List.pairwise_map]
    exact (pairwise_offset_code lambda).imp Nat.ne_of_lt
  intro heq
  have hsame := List.inj_on_of_nodup_map hnodup hplace hblank (hoffset.trans heq.symm)
  rw [hsame] at hchar
  cases hchar

/-- From the first label on, every offset before the end belongs to a branch. -/
theorem exists_mem_branchesOf
    {stop : Nat} {labels : List Label} {offset : Nat}
    (hfirst : ((branchesOf stop labels).head?.map fun first => first.label.start).getD stop ≤
      offset)
    (hstop : offset < stop) :
    ∃ branch ∈ branchesOf stop labels, branch.label.start ≤ offset ∧ offset < branch.stop := by
  fun_induction branchesOf stop labels with
  | case1 =>
      exact absurd hstop (Nat.not_lt.mpr hfirst)
  | case2 label =>
      exact ⟨_, List.mem_cons_self, hfirst, hstop⟩
  | case3 label next rest ih =>
      by_cases hnext : offset < next.start
      · exact ⟨_, List.mem_cons_self, hfirst, hnext⟩
      · have hhead : ((branchesOf stop (next :: rest)).head?.map
            fun first => first.label.start).getD stop = next.start := by
          cases rest with
          | nil => rfl
          | cons other others => rfl
        rw [hhead] at ih
        obtain ⟨branch, hbranch, hrange⟩ := ih (Nat.not_lt.mp hnext)
        exact ⟨branch, List.mem_cons_of_mem _ hbranch, hrange⟩

/-- **A comment stands outside the branches, in a label or in a body.** -/
theorem exists_branch_of_mem_comments
    {lambda : Lambda} (usable : UsableDispatch lambda) {comment : LineComment}
    (h : comment ∈ lambda.comments)
    (hinside : comment ∉ lambda.commentsOutside usable.firstLabel (usable.closing + 1)) :
    ∃ branch ∈ usable.branches,
      (branch.label.start ≤ comment.offset ∧ comment.offset < branch.label.stop) ∨
        comment ∈ lambda.commentsIn branch.label.stop branch.stop := by
  have hrange : usable.firstLabel ≤ comment.offset ∧ comment.offset < usable.closing + 1 := by
    rw [Lambda.commentsOutside, List.mem_filter] at hinside
    simpa [h] using hinside
  have hclosing := offset_ne_of_matchingBrace? usable.closed h
  obtain ⟨branch, hbranch, hstart, hstop⟩ := exists_mem_branchesOf hrange.1 (by omega)
  refine ⟨branch, hbranch, ?_⟩
  by_cases hlabel : comment.offset < branch.label.stop
  · exact Or.inl ⟨hstart, hlabel⟩
  · refine Or.inr (List.mem_filter.mpr ⟨h, ?_⟩)
    simpa using ⟨Nat.not_lt.mp hlabel, hstop⟩

end Regions

/-- There is a warning about a marker with the line. -/
def IsReported (warnings : List Warning) (line : Nat) : Prop :=
  ∃ warning ∈ warnings, warning.oddity.isAboutMarker = true ∧ warning.line = some line

section Outside

/-- What a device marker that can be read says. -/
def deviceOf? (place : PlacedMarker) : Option DeviceIdentity :=
  match place.2 with
  | .error _ => none
  | .ok marker => if marker.tag = .device then marker.device.toOption else none

/-- What has been read of the markers outside the branches accounts for them. -/
structure IdentityReading.AccountsFor (lambda : Lambda) (markers : List PlacedMarker)
    (reading : IdentityReading) : Prop where
  /-- The first device marker that can be read gives the identity. -/
  identity_eq : reading.identity = markers.findSome? deviceOf?
  /-- All others are reported. -/
  reported : ∀ before place after, markers = before ++ place :: after →
    ((deviceOf? place).isSome = true ∧ before.findSome? deviceOf? = none) ∨
      IsReported reading.warnings (lambda.lineOf place.1)
  aboutMarker : ∀ warning ∈ reading.warnings, warning.oddity.isAboutMarker = true

namespace IdentityReading.AccountsFor

variable {lambda : Lambda} {markers : List PlacedMarker} {reading : IdentityReading}

/-- One more marker is accounted for by the identity or by a further warning. -/
theorem concat
    (h : AccountsFor lambda markers reading)
    {place : PlacedMarker} {later : IdentityReading} {added : List Warning}
    (hidentity : later.identity = (markers ++ [place]).findSome? deviceOf?)
    (hwarnings : later.warnings = reading.warnings ++ added)
    (hadded : ∀ warning ∈ added, warning.oddity.isAboutMarker = true)
    (hplace : ((deviceOf? place).isSome = true ∧ markers.findSome? deviceOf? = none) ∨
      IsReported later.warnings (lambda.lineOf place.1)) :
    AccountsFor lambda (markers ++ [place]) later := by
  refine ⟨hidentity, ?_, ?_⟩
  · intro before other after hsplit
    rcases List.eq_nil_or_concat after with rfl | ⟨between, last, rfl⟩
    · obtain ⟨rfl, hlast⟩ := List.append_inj' hsplit rfl
      obtain rfl := List.singleton_inj.mp hlast
      exact hplace
    · have hmarkers : markers = before ++ other :: between := by
        rw [List.concat_eq_append, ← List.cons_append, ← List.append_assoc] at hsplit
        exact (List.append_inj' hsplit rfl).1
      rcases h.reported before other between hmarkers with hfirst | ⟨warning, hmem, hwarning⟩
      · exact Or.inl hfirst
      · exact Or.inr ⟨warning, hwarnings ▸ List.mem_append_left _ hmem, hwarning⟩
  · rw [hwarnings, List.forall_mem_append]
    exact ⟨h.aboutMarker, hadded⟩

/-- A marker that does not name the device is accounted for by a warning. -/
theorem warn
    (h : AccountsFor lambda markers reading)
    (place : PlacedMarker)
    {oddity : Oddity}
    (hdevice : deviceOf? place = none ∨ (markers.findSome? deviceOf?).isSome = true)
    (hodd : oddity.isAboutMarker = true) :
    AccountsFor lambda (markers ++ [place])
      (reading.warn (lambda.warning place.1 oddity)) := by
  refine h.concat ?_ rfl (List.forall_mem_singleton.mpr hodd)
    (Or.inr ⟨lambda.warning place.1 oddity, ?_, hodd, rfl⟩)
  · rw [List.findSome?_append]
    rcases hdevice with hnone | hsome
    · simpa [IdentityReading.warn, hnone] using h.identity_eq
    · obtain ⟨identity, hidentity⟩ := Option.isSome_iff_exists.mp hsome
      rw [hidentity]
      simpa [IdentityReading.warn, hidentity] using h.identity_eq
  · exact List.mem_append_right _ (List.mem_singleton_self _)

/-- **Taking one more marker keeps the account.** -/
theorem take
    (h : AccountsFor lambda markers reading)
    (place : PlacedMarker) :
    AccountsFor lambda (markers ++ [place]) (reading.take lambda place) := by
  obtain ⟨offset, marking⟩ := place
  cases marking with
  | error error =>
      exact h.warn _ (Or.inl rfl) rfl
  | ok marker =>
      simp only [IdentityReading.take]
      split
      · next htag =>
        exact h.warn (offset, .ok marker) (Or.inl (by simp [deviceOf?, htag])) rfl
      · next htag =>
        rw [Decidable.not_not] at htag
        split
        · next hsome =>
          rw [h.identity_eq] at hsome
          exact h.warn (offset, .ok marker) (Or.inr hsome) rfl
        · next hnone =>
          rw [h.identity_eq, Option.not_isSome_iff_eq_none] at hnone
          cases hread : marker.device with
          | error error =>
              exact h.warn (offset, .ok marker)
                (Or.inl (by simp [deviceOf?, htag, hread, Except.toOption])) rfl
          | ok identity =>
              have hdevice : deviceOf? (offset, .ok marker) = some identity := by
                simp [deviceOf?, htag, hread, Except.toOption]
              refine h.concat ?_ (List.append_nil _).symm (List.forall_mem_nil _)
                (Or.inl ⟨by rw [hdevice]; rfl, hnone⟩)
              simp [List.findSome?_append, hnone, hdevice]

end IdentityReading.AccountsFor

/-- **Account of the markers outside the branches.** -/
theorem accountsFor_foldl_take (lambda : Lambda) (markers : List PlacedMarker) :
    (markers.foldl (IdentityReading.take lambda) {}).AccountsFor lambda markers := by
  induction markers using List.reverseRecOn with
  | nil =>
      exact ⟨rfl, by simp, List.forall_mem_nil _⟩
  | append_singleton markers place ih =>
      rw [List.foldl_append]
      exact ih.take place

theorem accountsFor_ofLambda (lambda : Lambda) (start stop : Nat) :
    (IdentityReading.ofLambda lambda start stop).AccountsFor lambda
      (markersOf (lambda.commentsOutside start stop)) :=
  accountsFor_foldl_take lambda _

end Outside

section Branches

variable {lambda : Lambda}

/-- Reading one more branch keeps the warnings. -/
theorem PageReading.warnings_prefix_addBranch (reading : PageReading) (branch : Branch) :
    reading.warnings <+: (reading.addBranch lambda branch).warnings := by
  by_cases hskipped : branch.label.digits = none ∨ UInt32.size ≤ reading.pages.length
  · obtain ⟨oddities, hadd, -⟩ := exists_addBranch_eq_of_skipped lambda hskipped
    rw [hadd]
    exact List.prefix_append _ _
  · rw [not_or, Nat.not_le] at hskipped
    obtain ⟨digits, hdigits⟩ := Option.ne_none_iff_exists'.mp hskipped.1
    rw [addBranch_eq_addPage lambda reading hdigits, addPage, if_neg (Nat.not_le.mpr hskipped.2)]
    simp only [List.append_assoc]
    exact List.prefix_append _ _

/-- The warnings about some branches are kept when further ones are read. -/
theorem PageReading.warnings_prefix_ofBranches (first second : List Branch) :
    (ofBranches lambda first).warnings <+: (ofBranches lambda (first ++ second)).warnings := by
  induction second using List.reverseRecOn with
  | nil =>
      rw [List.append_nil]
  | append_singleton second branch ih =>
      rw [← List.append_assoc, ofBranches_concat]
      exact ih.trans (warnings_prefix_addBranch _ _)

/-- A branch with a page label gets the next ordinal, if there is one. -/
theorem getElem?_ordinalBranches
    {first : List Branch} {branch : Branch}
    (last : List Branch)
    (hlabel : branch.label.digits.isSome = true)
    (hroom : (ordinalBranches first).length < UInt32.size) :
    (ordinalBranches (first ++ branch :: last))[(ordinalBranches first).length]? =
      some branch := by
  have hall : ordinalBranches first = first.filter fun branch => branch.label.digits.isSome := by
    rw [ordinalBranches, List.length_take] at hroom
    exact List.take_of_length_le (by omega)
  rw [ordinalBranches, List.getElem?_take_of_lt hroom, List.filter_append, ← hall,
    List.getElem?_append_right (Nat.le_refl _), Nat.sub_self, List.filter_cons, if_pos hlabel,
    List.getElem?_cons_zero]

/-- What a marker that is used gives the page of its branch. -/
def GivesPage (page : Page) (place : PlacedMarker) : Prop :=
  (∃ identity, pageOf? place = some identity ∧ page.title = identity.title) ∨
    ∃ widget ∈ page.widgets, widgetOf? place = some widget

/-- Taking more widgets keeps those that are taken. -/
theorem firstById_prefix_append (used : List String) (first second : List Widget) :
    firstById used first <+: firstById used (first ++ second) := by
  induction second using List.reverseRecOn with
  | nil =>
      rw [List.append_nil]
  | append_singleton second widget ih =>
      rw [← List.append_assoc, firstById_concat]
      exact ih.trans (List.prefix_append _ _)

/-- A marker that is used gives its page the title or a widget. -/
theorem IsPageOf.givesPage
    {earlier : List Page} {page : Page} {before after : List PlacedMarker} {place : PlacedMarker}
    (h : IsPageOf earlier (before ++ place :: after) page)
    (hused : isUsed (widgetIdsOf earlier) before place = true) :
    GivesPage page place := by
  rw [isUsed, Bool.or_eq_true, Bool.and_eq_true, Option.any_eq_true] at hused
  rcases hused with ⟨hpage, hfirst⟩ | ⟨widget, hwidget, hnew⟩
  · obtain ⟨identity, hidentity⟩ := Option.isSome_iff_exists.mp hpage
    refine Or.inl ⟨identity, hidentity, ?_⟩
    rw [h.title_eq, List.findSome?_append, Option.isNone_iff_eq_none.mp hfirst,
      List.findSome?_cons, hidentity]
    rfl
  · refine Or.inr ⟨widget, ?_, hwidget⟩
    have hfree : ¬(widget.id ∈ widgetIdsOf earlier ∨
        widget.id ∈ (before.filterMap widgetOf?).map Widget.id) := by
      simpa using hnew
    have htaken : firstById (widgetIdsOf earlier) (before.filterMap widgetOf?) ++ [widget] =
        firstById (widgetIdsOf earlier) (before.filterMap widgetOf? ++ [widget]) := by
      rw [firstById_concat, if_neg hfree]
    have hsplit : (before ++ place :: after).filterMap widgetOf? =
        (before.filterMap widgetOf? ++ [widget]) ++ after.filterMap widgetOf? := by
      simp [hwidget]
    rw [h.widgets_eq, hsplit]
    refine (firstById_prefix_append _ _ _).subset ?_
    rw [← htaken]
    exact List.mem_append_right _ (List.mem_singleton_self _)

end Branches

section Fates

/-- What becomes of a marker of a routine from which a layout has been read. -/
inductive HasFate {lambda : Lambda} (usable : UsableDispatch lambda) (imported : Imported)
    (place : PlacedMarker) : Prop
  /-- It is the first device marker outside the branches that can be read. -/
  | identifies
      {before after : List PlacedMarker} {identity : DeviceIdentity}
      (split : markersOf (lambda.commentsOutside usable.firstLabel (usable.closing + 1)) =
        before ++ place :: after)
      (first : before.findSome? deviceOf? = none)
      (reads : deviceOf? place = some identity)
      (name_eq : imported.device.name = identity.name.getD imported.device.id)
  /-- It is used for the page of its branch. -/
  | used
      {k : Nat} {branch : Branch} {page : Page} {before after : List PlacedMarker}
      (branch_eq : (ordinalBranches usable.branches)[k]? = some branch)
      (page_eq : imported.device.pages[k]? = some page)
      (split : markersIn lambda branch = before ++ place :: after)
      (isUsed_eq : isUsed (widgetIdsOf (imported.device.pages.take k)) before place = true)
      (gives : GivesPage page place)
  /-- It is reported with its line. -/
  | reported
      (warned : IsReported imported.warnings (lambda.lineOf place.1))
  /-- It stands in a branch for all other pages, and that is reported. -/
  | inDefault
      {branch : Branch}
      (mem : branch ∈ usable.branches)
      (digits_eq : branch.label.digits = none)
      (placed : place ∈ markersIn lambda branch)
      (warned : lambda.warning branch.label.start .markersInDefault ∈ imported.warnings)
  /-- It stands in a branch for which there is no ordinal, and that is reported. -/
  | beyondLimit
      {branch : Branch}
      (mem : branch ∈ usable.branches)
      (digits_isSome : branch.label.digits.isSome = true)
      (placed : place ∈ markersIn lambda branch)
      (warned : lambda.warning branch.label.start .tooManyPages ∈ imported.warnings)
  /-- It stands inside the label of a branch. -/
  | inLabel
      {branch : Branch}
      (mem : branch ∈ usable.branches)
      (start_le : branch.label.start ≤ place.1)
      (lt_stop : place.1 < branch.label.stop)

namespace UsableDispatch

variable {lambda : Lambda} (usable : UsableDispatch lambda)

/-- What is read of the dispatch, after some earlier warnings. -/
def imported (earlier : List Warning) (deviceId : String) : Imported where
  device := usable.device deviceId
  warnings := usable.warnings earlier deviceId

variable {earlier : List Warning} {deviceId : String} {place : PlacedMarker}

theorem mem_warnings_of_mem_reading
    {warning : Warning}
    (h : warning ∈ usable.reading.warnings) :
    warning ∈ (usable.imported earlier deviceId).warnings :=
  List.mem_append_left _ (List.mem_append_left _ (List.mem_append_right _ h))

/-- A marker outside the branches identifies the device or is reported. -/
theorem hasFate_outside
    (h : place ∈ markersOf
      (lambda.commentsOutside usable.firstLabel (usable.closing + 1))) :
    HasFate usable (usable.imported earlier deviceId) place := by
  obtain ⟨before, after, hsplit⟩ := List.append_of_mem h
  have haccount := accountsFor_ofLambda lambda usable.firstLabel (usable.closing + 1)
  rcases haccount.reported before place after hsplit with ⟨hdevice, hfirst⟩ | hreported
  · obtain ⟨identity, hidentity⟩ := Option.isSome_iff_exists.mp hdevice
    refine .identifies hsplit hfirst hidentity ?_
    have houtside : usable.outside.identity = some identity := by
      rw [outside, haccount.identity_eq, hsplit, List.findSome?_append, hfirst,
        List.findSome?_cons, hidentity]
      rfl
    change (usable.outside.identity.bind DeviceIdentity.name).getD deviceId = _
    rw [houtside]
    rfl
  · obtain ⟨warning, hmem, hwarning⟩ := hreported
    exact .reported ⟨warning, List.mem_append_left _ (List.mem_append_right _ hmem), hwarning⟩

/-- A marker in a branch with an ordinal is used for its page or reported. -/
theorem hasFate_onPage
    (hearlier : ∀ warning ∈ earlier, warning.oddity.isAboutMarker = false)
    {k : Nat} {branch : Branch}
    (hbranch : (ordinalBranches usable.branches)[k]? = some branch)
    (h : place ∈ markersIn lambda branch) :
    HasFate usable (usable.imported earlier deviceId) place := by
  obtain ⟨before, after, hsplit⟩ := List.append_of_mem h
  have haccount := addsUpTo_ofBranches lambda usable.branches
  have hcount := usable.countP_warnings hbranch hsplit deviceId hearlier
  have hk : k < usable.reading.pages.length := by
    rw [reading, haccount.length_eq]
    exact (List.getElem?_eq_some_iff.mp hbranch).1
  have hpage := List.getElem?_eq_getElem hk
  obtain ⟨found, hfound, hisPage⟩ := haccount.isPageOf k _ hpage
  obtain rfl := Option.some.inj (hfound.symm.trans hbranch)
  rw [hsplit] at hisPage
  cases hused : isUsed (widgetIdsOf (usable.reading.pages.take k)) before place with
  | true =>
      exact .used hbranch hpage hsplit hused (hisPage.givesPage hused)
  | false =>
      rw [hused, if_neg Bool.false_ne_true] at hcount
      obtain ⟨warning, hmem, hwarning⟩ := List.countP_pos_iff.mp (hcount ▸ Nat.one_pos)
      rw [Bool.and_eq_true, beq_iff_eq] at hwarning
      exact .reported ⟨warning, hmem, hwarning⟩

/-- A marker in a body is used or reported, or its branch is. -/
theorem hasFate_inBranch
    (hearlier : ∀ warning ∈ earlier, warning.oddity.isAboutMarker = false)
    {branch : Branch}
    (hbranch : branch ∈ usable.branches)
    (h : place ∈ markersIn lambda branch) :
    HasFate usable (usable.imported earlier deviceId) place := by
  obtain ⟨first, last, hsplit⟩ := List.append_of_mem hbranch
  have hkept : (PageReading.ofBranches lambda (first ++ [branch])).warnings <+:
      usable.reading.warnings := by
    rw [reading, hsplit, List.append_cons first branch last]
    exact PageReading.warnings_prefix_ofBranches _ _
  rw [PageReading.ofBranches_concat] at hkept
  have hlength := (addsUpTo_ofBranches lambda first).length_eq
  generalize PageReading.ofBranches lambda first = before at hkept hlength
  cases hdigits : branch.label.digits with
  | none =>
      refine .inDefault hbranch hdigits h (usable.mem_warnings_of_mem_reading
        (hkept.subset ?_))
      have hmarkers : (markersOf (lambda.commentsIn branch.label.stop branch.stop)).isEmpty =
          false :=
        List.isEmpty_eq_false_iff.mpr (List.ne_nil_of_mem h)
      simp [PageReading.addBranch, hdigits, hmarkers]
  | some digits =>
      by_cases hfull : UInt32.size ≤ before.pages.length
      · refine .beyondLimit hbranch (by rw [hdigits]; rfl) h
          (usable.mem_warnings_of_mem_reading (hkept.subset ?_))
        simp [PageReading.addBranch, hdigits, PageReading.addPage, hfull]
      · rw [hlength, Nat.not_le] at hfull
        have hordinal := getElem?_ordinalBranches last (by rw [hdigits]; rfl) hfull
        rw [← hsplit] at hordinal
        exact usable.hasFate_onPage hearlier hordinal h

/-- **Every marker has its fate.** -/
theorem hasFate
    (hearlier : ∀ warning ∈ earlier, warning.oddity.isAboutMarker = false)
    (h : place ∈ markersOf lambda.comments) :
    HasFate usable (usable.imported earlier deviceId) place := by
  obtain ⟨comment, hcomment, hplace⟩ := List.mem_filterMap.mp h
  by_cases houtside :
      comment ∈ lambda.commentsOutside usable.firstLabel (usable.closing + 1)
  · exact usable.hasFate_outside (List.mem_filterMap.mpr ⟨comment, houtside, hplace⟩)
  · obtain ⟨branch, hbranch, hlabel | hbody⟩ :=
      exists_branch_of_mem_comments usable hcomment houtside
    · obtain ⟨-, -, rfl⟩ := Option.map_eq_some_iff.mp hplace
      exact .inLabel hbranch hlabel.1 hlabel.2
    · exact usable.hasFate_inBranch hearlier hbranch
        (List.mem_filterMap.mpr ⟨comment, hbody, hplace⟩)

end UsableDispatch

/-- **Every marker of a snippet that is read has its fate.** -/
theorem importSnippet_fates
    {text deviceId : String} {imported : Imported}
    (h : importSnippet text deviceId = .ok imported) :
    ∃ doc : UsableDocument text, ∀ place ∈ markersOf doc.lambda.comments,
      HasFate doc.usable imported place := by
  obtain ⟨doc⟩ : Nonempty (UsableDocument text) :=
    nonempty_usableDocument deviceId (by rw [h]; trivial)
  refine ⟨doc, ?_⟩
  intro place hplace
  have hearlier : ∀ warning ∈ sectionWarnings doc.document,
      warning.oddity.isAboutMarker = false := by
    intro warning hwarning
    obtain ⟨name, -, rfl⟩ := List.mem_map.mp hwarning
    rfl
  rw [doc.importSnippet_eq] at h
  split at h
  · rw [← Except.ok.inj h]
    exact doc.usable.hasFate hearlier hplace
  · cases h

/-- A page whose widget stands between the first word and the number of its label. -/
def markerInLabel : String :=
  "display:\n lambda: |\n  switch(id(display_page))\x7b\n" ++
    "  case // @widget id=w kind=clock x=0 y=0 width=1 height=1\n" ++
    "  0:\n  // @page id=p title=Hall\n  \x7d\n"

/-- The drawing routine with that page. -/
def markerInLabelRoutine : String :=
  "switch(id(display_page))\x7b\n" ++
    "case // @widget id=w kind=clock x=0 y=0 width=1 height=1\n" ++
    "0:\n// @page id=p title=Hall\n\x7d\n"

theorem hasRoutine_markerInLabel : HasRoutine markerInLabel markerInLabelRoutine := by
  rewrite [HasRoutine, loadDocument, Yaml.Value.ofText, Yaml.TokenStream.ofText,
    show markerInLabel.toList = _ from
      toList_append_eq (toList_append_eq String.toList_ofList String.toList_ofList)
        String.toList_ofList]
  decide +kernel

theorem importSnippet_markerInLabel_eq :
    importSnippet markerInLabel "panel" = .ok {
      device := { id := "panel", name := "panel"
                  pages := [{ id := "p", title := "Hall", ordinal := 0 }] }
      warnings := [] } := by
  rewrite [hasRoutine_markerInLabel.importSnippet_eq, Lambda.ofText, firstLine,
    show markerInLabelRoutine.toList = _ from
      toList_append_eq (toList_append_eq String.toList_ofList String.toList_ofList)
        String.toList_ofList,
    show markerInLabel.toList = _ from
      toList_append_eq (toList_append_eq String.toList_ofList String.toList_ofList)
        String.toList_ofList]
  decide +kernel

/-- The markers of that page have their fates. -/
theorem importSnippet_fates_markerInLabel :
    ∃ imported, importSnippet markerInLabel "panel" = .ok imported ∧
      ∃ doc : UsableDocument markerInLabel, ∀ place ∈ markersOf doc.lambda.comments,
        HasFate doc.usable imported place :=
  ⟨_, importSnippet_markerInLabel_eq, importSnippet_fates importSnippet_markerInLabel_eq⟩

/-- A marker inside a label is lost: its widget is not read, and nothing is reported. -/
theorem importSnippet_markerInLabel :
    ∃ imported, importSnippet markerInLabel "panel" = .ok imported ∧
      imported.device.widgets = [] ∧ imported.warnings = [] ∧
      ∃ doc : UsableDocument markerInLabel, ∃ place ∈ markersOf doc.lambda.comments,
        (widgetOf? place).isSome = true := by
  refine ⟨_, importSnippet_markerInLabel_eq, rfl, rfl, ?_⟩
  obtain ⟨doc⟩ : Nonempty (UsableDocument markerInLabel) :=
    nonempty_usableDocument "panel" (by rw [importSnippet_markerInLabel_eq]; trivial)
  have hsource : doc.source = markerInLabelRoutine :=
    hasRoutine_markerInLabel.source_eq doc.routine
  have hcomments : doc.lambda.comments = (Lambda.ofText markerInLabelRoutine).comments := by
    rw [← hsource]
    rfl
  refine ⟨doc, ?_⟩
  rewrite [hcomments, Lambda.ofText,
    show markerInLabelRoutine.toList = _ from
      toList_append_eq (toList_append_eq String.toList_ofList String.toList_ofList)
        String.toList_ofList]
  decide +kernel

end Fates

end Snippet
end EpaperLayout
