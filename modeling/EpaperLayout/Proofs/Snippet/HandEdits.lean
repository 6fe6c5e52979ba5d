import EpaperLayout.Proofs.Snippet.BraceDepth
import EpaperLayout.Proofs.Snippet.GapFillers
import EpaperLayout.Proofs.Snippet.LoadedSnippet

/-!
# Edits by hand that mean nothing

Whoever edits a snippet may add white space and comments to a drawing routine
wherever there is white space already.  What is read of the document stays the
same, line numbers aside.

**Input.**  Documents that agree in their sections and routines, but for an idle
filler in one of the routines, and whose texts may be any texts.  The routine need
not be the one with the page dispatch.

**Argument.** The filler only widens the routine.  Its dispatch, branches and
markers are the same at places that have moved, so that the pages, the identity
and the warnings are read in the same way, step by step along the branches and
markers.

**Results.**
* `WidenedRoutine.usable`: a usable dispatch stays one.
* `WidenedRoutine.sameReading`, `WidenedRoutine.sameIdentity`: the same is read of
  it.
* `importDocument_filledIn`: the same device and the same messages are read.
-/

namespace EpaperLayout
namespace Snippet

section Usable

namespace WidenedRoutine

variable {gap size : Nat} {lambda lambda' : Lambda}

/-- The gap is not directly behind the braces of a block. -/
theorem apart_of_matchingBrace?
    (h : WidenedRoutine gap size lambda lambda')
    {opening closing : Nat}
    (hclosed : lambda.matchingBrace? opening = some closing) :
    opening + 1 ≠ gap ∧ closing + 1 ≠ gap := by
  obtain ⟨⟨place, hmem, rfl, hplace⟩, ⟨other, hother, rfl, hchar⟩⟩ :=
    exists_mem_of_matchingBrace? hclosed
  refine ⟨h.code.apart_of_mem hmem ?_, h.code.apart_of_mem hother ?_⟩
  · rw [hplace]
    decide
  · rw [hchar]
    decide

theorem branchLabels_dispatch_eq
    (h : WidenedRoutine gap size lambda lambda')
    (usable : UsableDispatch lambda) :
    lambda'.branchLabels ((usable.dispatch.moved gap size).opening + 1)
        (moved gap size usable.closing) =
      (lambda.branchLabels (usable.dispatch.opening + 1) usable.closing).map
        (Label.moved gap size) := by
  have hopening := (h.apart_of_matchingBrace? usable.closed).1
  rw [Dispatch.moved, ← moved_succ hopening, h.branchLabels_eq]

/-- **A usable dispatch stays one in a wider routine.** -/
def usable
    (h : WidenedRoutine gap size lambda lambda')
    (usable : UsableDispatch lambda) :
    UsableDispatch lambda' where
  dispatch := usable.dispatch.moved gap size
  closing := moved gap size usable.closing
  found := by
    rw [h.dispatch?_eq, usable.found, Option.map_some]
  closed := by
    rw [Dispatch.moved, h.matchingBrace?_eq, usable.closed, Option.map_some]
  pageLabel := by
    obtain ⟨label, hlabel, hdigits⟩ := usable.pageLabel
    refine ⟨label.moved gap size, ?_, hdigits⟩
    rw [h.branchLabels_dispatch_eq]
    exact List.mem_map_of_mem hlabel

theorem branches_usable
    (h : WidenedRoutine gap size lambda lambda')
    (usable : UsableDispatch lambda) :
    (h.usable usable).branches = usable.branches.map (Branch.moved gap size) := by
  rw [UsableDispatch.branches, UsableDispatch.branches, Lambda.branches, Lambda.branches]
  change branchesOf (moved gap size usable.closing)
    (lambda'.branchLabels ((usable.dispatch.moved gap size).opening + 1)
      (moved gap size usable.closing)) = _
  rw [h.branchLabels_dispatch_eq, branchesOf_moved]

end WidenedRoutine

end Usable

section Contents

/-- What has been read of a branch when `size` bytes have been put in at `gap`. -/
def BranchContents.moved (gap size : Nat) (contents : BranchContents) : BranchContents :=
  { contents with oddities := contents.oddities.map (Prod.map (Snippet.moved gap size) id) }

namespace BranchContents

variable (gap size : Nat)

theorem note_moved (contents : BranchContents) (offset : Nat) (oddity : Oddity) :
    (contents.moved gap size).note (Snippet.moved gap size offset) oddity =
      (contents.note offset oddity).moved gap size := by
  simp [note, BranchContents.moved]

theorem takePage_moved (contents : BranchContents) (offset : Nat) (marker : Marker) :
    (contents.moved gap size).takePage (Snippet.moved gap size offset) marker =
      (contents.takePage offset marker).moved gap size := by
  unfold takePage
  rw [note_moved]
  change (if contents.identity.isSome then _ else _) = _
  split
  · rfl
  · split
    · rfl
    · rw [note_moved]

theorem takeWidget_moved (used : List String) (contents : BranchContents) (offset : Nat)
    (marker : Marker) :
    (contents.moved gap size).takeWidget used (Snippet.moved gap size offset) marker =
      (contents.takeWidget used offset marker).moved gap size := by
  unfold takeWidget
  split
  · rw [note_moved]
  · next widget hwidget =>
    change (if !widget.problems.isEmpty then _ else
      if used.contains widget.id || (contents.widgets.map Widget.id).contains widget.id then _
      else _) = _
    split
    · rw [note_moved]
    · split
      · rw [note_moved]
      · rfl

/-- A marker is taken in the same way at the place it has moved to. -/
theorem take_moved (used : List String) (contents : BranchContents)
    (place : Nat × Except FieldError Marker) :
    take used (contents.moved gap size) (Prod.map (Snippet.moved gap size) id place) =
      (take used contents place).moved gap size := by
  obtain ⟨offset, marker⟩ := place
  unfold take
  simp only [Prod.map_apply, id]
  cases marker with
  | error error =>
      exact note_moved gap size contents offset _
  | ok marker =>
      simp only
      cases marker.tag with
      | device => exact note_moved gap size contents offset _
      | page => exact takePage_moved gap size contents offset marker
      | widget => exact takeWidget_moved gap size used contents offset marker

/-- All markers of a branch are taken in the same way at the places they have moved to. -/
theorem ofMarkers_moved (used : List String)
    (markers : List (Nat × Except FieldError Marker)) :
    ofMarkers used (markers.map (Prod.map (Snippet.moved gap size) id)) =
      (ofMarkers used markers).moved gap size := by
  rw [ofMarkers, ofMarkers, List.foldl_map]
  change markers.foldl _ (BranchContents.moved gap size {}) = _
  exact List.foldl_hom (BranchContents.moved gap size) (take_moved gap size used)

end BranchContents

end Contents

section Pages

/-- The same pages have been read, with the same warnings but for their lines. -/
structure SameReading (reading reading' : PageReading) : Prop where
  pages : reading'.pages = reading.pages
  oddities : reading'.warnings.map Warning.oddity = reading.warnings.map Warning.oddity

/-- The same identity has been read, with the same warnings but for their lines. -/
structure SameIdentity (reading reading' : IdentityReading) : Prop where
  identity : reading'.identity = reading.identity
  oddities : reading'.warnings.map Warning.oddity = reading.warnings.map Warning.oddity

namespace WidenedRoutine

variable {gap size : Nat} {lambda lambda' : Lambda}

/-- A branch is read in the same way at the place it has moved to. -/
theorem sameReading_addPage
    {reading reading' : PageReading}
    (h : SameReading reading reading')
    (branch : Branch) (digits : List Char) (markers : List (Nat × Except FieldError Marker)) :
    SameReading (reading.addPage lambda branch digits markers)
      (reading'.addPage lambda' (branch.moved gap size) digits
        (markers.map (Prod.map (moved gap size) id))) := by
  have hpageIds : reading'.pageIds = reading.pageIds := by
    rw [PageReading.pageIds, PageReading.pageIds, h.pages]
  have hwidgetIds : reading'.widgetIds = reading.widgetIds := by
    rw [PageReading.widgetIds, PageReading.widgetIds, h.pages]
  unfold PageReading.addPage
  simp only [h.pages, hpageIds, hwidgetIds, BranchContents.ofMarkers_moved]
  split
  · refine ⟨rfl, ?_⟩
    rw [List.map_append, List.map_append, h.oddities]
    rfl
  · refine ⟨rfl, ?_⟩
    simp only [List.map_append, List.map_map, h.oddities, BranchContents.moved,
      Function.comp_def, Lambda.warning, Prod.map_snd, id]
    rfl

theorem sameReading_addBranch
    (h : WidenedRoutine gap size lambda lambda')
    {reading reading' : PageReading}
    (hreading : SameReading reading reading')
    (branch : Branch) :
    SameReading (reading.addBranch lambda branch)
      (reading'.addBranch lambda' (branch.moved gap size)) := by
  have hmarkers : markersOf
      (lambda'.commentsIn (branch.moved gap size).label.stop (branch.moved gap size).stop) =
        (markersOf (lambda.commentsIn branch.label.stop branch.stop)).map
          (Prod.map (moved gap size) id) :=
    h.markersOf_commentsIn branch.label.stop branch.stop
  have hdigits : (branch.moved gap size).label.digits = branch.label.digits := rfl
  unfold PageReading.addBranch
  simp only [hmarkers, hdigits, List.isEmpty_map]
  cases branch.label.digits with
  | some digits =>
      exact sameReading_addPage hreading branch digits _
  | none =>
      simp only
      split
      · exact hreading
      · refine ⟨hreading.pages, ?_⟩
        rw [List.map_append, List.map_append, hreading.oddities]
        rfl

/-- **The same pages are read of a wider routine.** -/
theorem sameReading
    (h : WidenedRoutine gap size lambda lambda')
    (usable : UsableDispatch lambda) :
    SameReading usable.reading (h.usable usable).reading := by
  have hrun : ∀ (branches : List Branch) (reading reading' : PageReading),
      SameReading reading reading' →
        SameReading (branches.foldl (PageReading.addBranch lambda) reading)
          ((branches.map (Branch.moved gap size)).foldl (PageReading.addBranch lambda')
            reading') := by
    intro branches
    induction branches with
    | nil =>
        intro reading reading' hreading
        exact hreading
    | cons branch rest ih =>
        intro reading reading' hreading
        exact ih _ _ (h.sameReading_addBranch hreading branch)
  rw [UsableDispatch.reading, UsableDispatch.reading, h.branches_usable]
  exact hrun usable.branches {} {} ⟨rfl, rfl⟩

/-- A marker outside the branches is taken in the same way at the place it has moved to. -/
theorem sameIdentity_take
    {reading reading' : IdentityReading}
    (h : SameIdentity reading reading')
    (place : Nat × Except FieldError Marker) :
    SameIdentity (reading.take lambda place)
      (reading'.take lambda' (Prod.map (moved gap size) id place)) := by
  have hwarn : ∀ (offset offset' : Nat) (oddity : Oddity),
      SameIdentity (reading.warn (lambda.warning offset oddity))
        (reading'.warn (lambda'.warning offset' oddity)) := by
    intro offset offset' oddity
    refine ⟨h.identity, ?_⟩
    rw [IdentityReading.warn, IdentityReading.warn, List.map_append, List.map_append, h.oddities]
    rfl
  obtain ⟨offset, marker⟩ := place
  cases marker with
  | error error =>
      exact hwarn offset _ _
  | ok marker =>
      simp only [IdentityReading.take, Prod.map_apply, id]
      rw [h.identity]
      split
      · exact hwarn offset _ _
      · split
        · exact hwarn offset _ _
        · split
          · exact ⟨rfl, h.oddities⟩
          · exact hwarn offset _ _

theorem firstLabel_usable
    (h : WidenedRoutine gap size lambda lambda')
    (usable : UsableDispatch lambda) :
    (h.usable usable).firstLabel = moved gap size usable.firstLabel := by
  rw [UsableDispatch.firstLabel, UsableDispatch.firstLabel, h.branches_usable, List.head?_map]
  cases usable.branches.head? <;> rfl

/-- **The same identity is read of a wider routine.** -/
theorem sameIdentity
    (h : WidenedRoutine gap size lambda lambda')
    (usable : UsableDispatch lambda) :
    SameIdentity usable.outside (h.usable usable).outside := by
  have hrun : ∀ (markers : List (Nat × Except FieldError Marker))
      (reading reading' : IdentityReading), SameIdentity reading reading' →
        SameIdentity (markers.foldl (IdentityReading.take lambda) reading)
          ((markers.map (Prod.map (moved gap size) id)).foldl (IdentityReading.take lambda')
            reading') := by
    intro markers
    induction markers with
    | nil =>
        intro reading reading' hreading
        exact hreading
    | cons place rest ih =>
        intro reading reading' hreading
        exact ih _ _ (sameIdentity_take hreading place)
  rw [UsableDispatch.outside, UsableDispatch.outside, IdentityReading.ofLambda,
    IdentityReading.ofLambda, h.firstLabel_usable]
  change SameIdentity _ ((markersOf (lambda'.commentsOutside (moved gap size usable.firstLabel)
    (moved gap size usable.closing + 1))).foldl _ _)
  rw [← moved_succ (h.apart_of_matchingBrace? usable.closed).2, h.markersOf_commentsOutside]
  exact hrun _ {} {} ⟨rfl, rfl⟩

end WidenedRoutine

end Pages

section Documents

/-- A routine with other numbers for its lines is no wider. -/
theorem WidenedRoutine.of_text_eq
    {lambda lambda' : Lambda}
    (h : lambda'.text = lambda.text) :
    WidenedRoutine 0 0 lambda lambda' := by
  have hlocate : ∀ (cs : List Char), Widened 0 0 (locate 0 cs) (locate 0 cs) :=
    widened_locate_behind (Nat.le_refl 0) 0
  have hcomments : ∀ (pieces : List Piece), lineCommentsFrom 0 pieces =
      (lineCommentsFrom 0 pieces).map (LineComment.moved 0 0) :=
    map_moved_lineCommentsFrom_behind (Nat.le_refl 0) 0
  constructor
  · rw [Lambda.code, Lambda.code, Lambda.masked, Lambda.masked, h]
    exact hlocate _
  · refine ⟨lambda.comments, [], [], ?_, ?_, fun comment hcomment => absurd hcomment List.not_mem_nil⟩
    · rw [List.append_nil]
    · rw [List.map_nil, List.append_nil, List.append_nil, Lambda.comments, Lambda.comments, h]
      exact hcomments _

/-- One routine is the other, or the other with an idle filler. -/
def SameButFiller (source edited : String) : Prop :=
  edited = source ∨ ∃ filler : Filler, filler.Idle ∧ FilledIn filler source.toList edited.toList

theorem SameButFiller.exists_widenedRoutine
    {source edited : String}
    (h : SameButFiller source edited)
    (line line' : Nat) :
    ∃ gap size, WidenedRoutine gap size ((Lambda.ofText source).startingAt line)
      ((Lambda.ofText edited).startingAt line') := by
  rcases h with rfl | ⟨filler, hidle, hedited⟩
  · exact ⟨0, 0, .of_text_eq rfl⟩
  · exact FilledIn.exists_widenedRoutine hedited hidle

/-- The routine with the dispatch stays the first one that has a dispatch. -/
theorem exists_findRoutine?_eq
    {text : String} {routines routines' : List String} {routine : Routine}
    (hroutines : List.Forall₂ SameButFiller routines routines')
    (hfound : findRoutine? text routines = some routine)
    (text' : String) :
    ∃ routine', findRoutine? text' routines' = some routine' ∧
      ∃ gap size, WidenedRoutine gap size routine.lambda routine'.lambda ∧
        routine'.dispatch = routine.dispatch.moved gap size := by
  induction hroutines with
  | nil =>
      cases hfound
  | @cons source edited rest rest' hsame _ ih =>
      obtain ⟨gap, size, hwidened⟩ :=
        hsame.exists_widenedRoutine (firstLine text source) (firstLine text' edited)
      have hdispatch := hwidened.dispatch?_eq
      rw [findRoutine?, List.findSome?_cons] at hfound ⊢
      simp only [hdispatch] at hfound ⊢
      cases hsource : ((Lambda.ofText source).startingAt (firstLine text source)).dispatch? with
      | none =>
          simp only [hsource, Option.map_none] at hfound ⊢
          exact ih hfound
      | some dispatch =>
          simp only [hsource, Option.map_some, Option.some.injEq] at hfound ⊢
          subst hfound
          exact ⟨_, rfl, gap, size, hwidened, rfl⟩

theorem dispatch?_of_findRoutine?
    {text : String} {routines : List String} {routine : Routine}
    (h : findRoutine? text routines = some routine) :
    routine.lambda.dispatch? = some routine.dispatch := by
  obtain ⟨source, -, hsource⟩ := List.exists_of_findSome?_eq_some h
  obtain ⟨dispatch, hdispatch, rfl⟩ := Option.map_eq_some_iff.mp hsource
  exact hdispatch

/-- **The same is read of a wider routine**, but for the lines of the warnings. -/
theorem WidenedRoutine.exists_read_eq
    {gap size : Nat} {routine routine' : Routine} {earlier : List Warning} {deviceId : String}
    {imported : Imported}
    (h : WidenedRoutine gap size routine.lambda routine'.lambda)
    (hfound : routine.lambda.dispatch? = some routine.dispatch)
    (hdispatch : routine'.dispatch = routine.dispatch.moved gap size)
    (hread : routine.read earlier deviceId = .ok imported) :
    ∃ imported', routine'.read earlier deviceId = .ok imported' ∧
      imported'.device = imported.device ∧
      imported'.warnings.map Warning.oddity = imported.warnings.map Warning.oddity := by
  have hreads : ReadsLayout (routine.read earlier deviceId) := by
    rw [hread]
    exact trivial
  obtain ⟨usable⟩ := nonempty_usableDispatch hfound hreads
  have hsame : usable.dispatch = routine.dispatch :=
    Option.some.inj (usable.found.symm.trans hfound)
  have hsame' : (h.usable usable).dispatch = routine'.dispatch := by
    rw [hdispatch, ← hsame]
    rfl
  have hpages := h.sameReading usable
  have hidentity := h.sameIdentity usable
  -- the device is built from the pages and the identity, so it is the same
  have hdevice : (h.usable usable).device deviceId = usable.device deviceId := by
    have hname : (h.usable usable).outside.identity = usable.outside.identity :=
      hidentity.identity
    have hpagesEq : (h.usable usable).reading.pages = usable.reading.pages := hpages.pages
    rw [UsableDispatch.device, UsableDispatch.device, hname, hpagesEq]
  have hread' := (h.usable usable).read_eq earlier deviceId
  have hreadEq := usable.read_eq earlier deviceId
  rw [hsame] at hreadEq
  rw [hsame', hdevice] at hread'
  change routine.read earlier deviceId = _ at hreadEq
  change routine'.read earlier deviceId = _ at hread'
  rw [hreadEq] at hread
  split at hread
  · next hvalid =>
    rw [if_pos hvalid] at hread'
    obtain rfl := Except.ok.inj hread
    refine ⟨_, hread', rfl, ?_⟩
    simp only [UsableDispatch.warnings, List.map_append, hpages.oddities, hidentity.oddities,
      hidentity.identity]
  · cases hread

/-- **White space and comments that are no markers, put in behind a blank of the code, change
nothing that is read but the numbers of lines.** -/
theorem importDocument_filledIn
    {text text' deviceId : String} {document document' : Yaml.Value} {before after : List String}
    {source edited : String} {filler : Filler} {imported : Imported}
    (hidle : filler.Idle)
    (hedited : FilledIn filler source.toList edited.toList)
    (hroutines : displayLambdas document = .ok (before ++ source :: after))
    (hroutines' : displayLambdas document' = .ok (before ++ edited :: after))
    (hsections : sectionWarnings document' = sectionWarnings document)
    (h : importDocument text document deviceId = .ok imported) :
    ∃ imported', importDocument text' document' deviceId = .ok imported' ∧
      imported'.device = imported.device ∧
      imported'.warnings.map Warning.message = imported.warnings.map Warning.message := by
  have hsame : List.Forall₂ SameButFiller (before ++ source :: after)
      (before ++ edited :: after) :=
    List.rel_append (List.forall₂_same.mpr fun _ _ => .inl rfl)
      (.cons (.inr ⟨filler, hidle, hedited⟩) (List.forall₂_same.mpr fun _ _ => .inl rfl))
  cases hfound : findRoutine? text (before ++ source :: after) with
  | none =>
      obtain ⟨reason, hrefused⟩ := exists_importDocument_of_none deviceId hroutines hfound
      rw [hrefused] at h
      cases h
  | some routine =>
      rw [importDocument_of_some deviceId hroutines hfound] at h
      obtain ⟨routine', hfound', gap, size, hwidened, hdispatch⟩ :=
        exists_findRoutine?_eq hsame hfound text'
      obtain ⟨imported', hread', hdevice, hoddities⟩ :=
        hwidened.exists_read_eq (dispatch?_of_findRoutine? hfound) hdispatch h
      refine ⟨imported', ?_, hdevice, ?_⟩
      · rw [importDocument_of_some deviceId hroutines' hfound', hsections]
        exact hread'
      · have hmessages : ∀ warnings : List Warning, warnings.map Warning.message =
            (warnings.map Warning.oddity).map Oddity.message := by
          intro warnings
          rw [List.map_map]
          rfl
        rw [hmessages, hmessages, hoddities]

/-- A routine with one page and one widget. -/
def plainRoutine : String :=
  "switch (id(display_page)) \x7b\n  case 4: \x7b\n    // @page id=a\n" ++
    "    // @widget id=w kind=text x=0 y=0 width=9 height=9\n  \x7d\n\x7d"

/-- The routine with a remark in its head that looks like a branch with a marker. -/
def remarkedRoutine : String :=
  "switch /* \x7d case 7: // @widget id=v \" */(id(display_page)) \x7b\n  case 4: \x7b\n" ++
    "    // @page id=a\n    // @widget id=w kind=text x=0 y=0 width=9 height=9\n  \x7d\n\x7d"

/-- The remark changes nothing that is read. -/
theorem importDocument_remarkedRoutine :
    ∃ imported imported',
      importDocument "" (snippetDocument plainRoutine) "panel" = .ok imported ∧
        importDocument "" (snippetDocument remarkedRoutine) "panel" = .ok imported' ∧
        imported'.device = imported.device ∧
        imported'.warnings.map Warning.message = imported.warnings.map Warning.message := by
  have hidle : (Filler.blockComment " \x7d case 7: // @widget id=v \" ".toList).Idle := by
    change ¬ ['*', '/'] <:+: _
    decide +kernel
  have hedited : FilledIn (.blockComment " \x7d case 7: // @widget id=v \" ".toList)
      plainRoutine.toList remarkedRoutine.toList := by
    refine ⟨(pieces plainRoutine.toList).take 6, ' ', (pieces plainRoutine.toList).drop 7, ?_, rfl,
      ?_⟩
    · rewrite [show plainRoutine.toList = _ from
        toList_append_eq String.toList_ofList String.toList_ofList]
      decide +kernel
    · rewrite [show plainRoutine.toList = _ from
          toList_append_eq String.toList_ofList String.toList_ofList,
        show remarkedRoutine.toList = _ from
          toList_append_eq String.toList_ofList String.toList_ofList]
      decide +kernel
  obtain ⟨imported, himported⟩ :
      ∃ imported, importDocument "" (snippetDocument plainRoutine) "panel" = .ok imported := by
    have hok : (importDocument "" (snippetDocument plainRoutine) "panel").isOk = true := by
      rewrite [importDocument_of_singleton "panel" (displayLambdas_snippetDocument plainRoutine),
        Lambda.ofText, firstLine,
        show plainRoutine.toList = _ from
          toList_append_eq String.toList_ofList String.toList_ofList]
      decide +kernel
    cases hread : importDocument "" (snippetDocument plainRoutine) "panel" with
    | ok imported =>
        exact ⟨imported, rfl⟩
    | error error =>
        rw [hread] at hok
        cases hok
  have hroutines : displayLambdas (snippetDocument plainRoutine) =
      .ok ([] ++ plainRoutine :: []) :=
    displayLambdas_snippetDocument plainRoutine
  have hroutines' : displayLambdas (snippetDocument remarkedRoutine) =
      .ok ([] ++ remarkedRoutine :: []) :=
    displayLambdas_snippetDocument remarkedRoutine
  have hsections : sectionWarnings (snippetDocument remarkedRoutine) =
      sectionWarnings (snippetDocument plainRoutine) := by
    rw [sectionWarnings_snippetDocument, sectionWarnings_snippetDocument]
  obtain ⟨imported', himported', hdevice, hmessages⟩ :=
    importDocument_filledIn hidle hedited hroutines hroutines' hsections himported
  exact ⟨imported, imported', himported, himported', hdevice, hmessages⟩

end Documents

end Snippet
end EpaperLayout
