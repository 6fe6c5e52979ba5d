import EpaperLayout.Proofs.Snippet.DocumentLines

/-!
# The order of the warnings

The warnings about a routine are written branch by branch, and behind them those about
the markers outside the branches.  So they are not always in the order of the text.

**Inside a branch.**  First comes what is odd about the label, then what is odd about
the markers, and last what is odd about the page as a whole, with the line of the label
again.  So the lines go back if the page is remarked on and a marker on a later line
is left over.

**Between branches.**  The lines of one branch come before those of the next, since
the branches lie one behind the other.

**Outside the branches.**  These warnings come last.  Those about markers behind the
dispatch belong there; a marker ahead of the first label stands on an earlier line
than the label, since a comment takes the rest of its line.

**Results.**
* `exists_addBranch_eq`: the warnings about one branch, and when their lines go back.
* `inSourceOrder_ofBranches_iff`: the same for all branches, one after the other.
* `linesOf_foldl_take`: one warning for each stray marker outside the branches.
* `importSnippet_inSourceOrder_iff`: exactly when the lines of all warnings are in
  the order of the text.
* `importSnippet_lateRemarks`: they need not be.
-/

namespace EpaperLayout
namespace Snippet

/-- The lines of the warnings that have one. -/
def linesOf (warnings : List Warning) : List Nat :=
  warnings.filterMap Warning.line

/-- The lines of the warnings do not go back. -/
def InSourceOrder (warnings : List Warning) : Prop :=
  (linesOf warnings).Pairwise (· ≤ ·)

instance (warnings : List Warning) : Decidable (InSourceOrder warnings) :=
  inferInstanceAs (Decidable ((linesOf warnings).Pairwise (· ≤ ·)))

/-- The page of a branch is remarked on: it has no page marker that can be read, or one of the
earlier pages has its identifier. -/
def HasPageRemark (earlier : List Page) (markers : List PlacedMarker) : Prop :=
  ∀ identity, markers.findSome? pageOf? = some identity → identity.id ∈ earlier.map Page.id

/-- The lines of the warnings about a branch go back: its page is remarked on behind a warning about
a marker on a later line than the label. -/
def GoesBack (lambda : Lambda) (earlier : List Page) (branch : Branch) : Prop :=
  HasPageRemark earlier (markersIn lambda branch) ∧
    ∃ place ∈ leftOver (widgetIdsOf earlier) [] (markersIn lambda branch),
      lambda.lineOf branch.label.start < lambda.lineOf place.1

/-- The markers outside the branches without the one that names the device. -/
def strayMarkers (markers : List PlacedMarker) : List PlacedMarker :=
  markers.eraseP fun place => (deviceOf? place).isSome

section Order

variable {first second : List Warning}

@[simp] theorem linesOf_append (first second : List Warning) :
    linesOf (first ++ second) = linesOf first ++ linesOf second :=
  List.filterMap_append

theorem linesOf_eq_nil
    {warnings : List Warning}
    (h : ∀ warning ∈ warnings, warning.line = none) :
    linesOf warnings = [] :=
  List.filterMap_eq_nil_iff.mpr h

/-- Two lists of warnings with a line between them are in order if both are. -/
theorem inSourceOrder_append_iff
    {bound : Nat}
    (hfirst : ∀ line ∈ linesOf first, line ≤ bound)
    (hsecond : ∀ line ∈ linesOf second, bound ≤ line) :
    InSourceOrder (first ++ second) ↔ InSourceOrder first ∧ InSourceOrder second := by
  rw [InSourceOrder, linesOf_append, List.pairwise_append, ← and_assoc]
  exact and_iff_left fun a ha b hb => Nat.le_trans (hfirst a ha) (hsecond b hb)

theorem pairwise_of_forall_eq
    {line : Nat} {lines : List Nat}
    (h : ∀ a ∈ lines, a = line) :
    lines.Pairwise (· ≤ ·) :=
  List.pairwise_of_forall_mem_list fun a ha b hb => Nat.le_of_eq ((h a ha).trans (h b hb).symm)

/-- Lines from a line on, with that line before and behind them, are in order if nothing comes
behind them or none is later. -/
theorem pairwise_around_iff
    {line : Nat} {before lines after : List Nat}
    (hbefore : ∀ a ∈ before, a = line)
    (hlines : ∀ a ∈ lines, line ≤ a)
    (hsorted : lines.Pairwise (· ≤ ·))
    (hafter : ∀ a ∈ after, a = line) :
    (before ++ (lines ++ after)).Pairwise (· ≤ ·) ↔ after = [] ∨ ∀ a ∈ lines, a ≤ line := by
  have hfirst : ∀ a ∈ before, ∀ b ∈ lines ++ after, a ≤ b := by
    intro a ha b hb
    rw [hbefore a ha]
    rcases List.mem_append.mp hb with hb | hb
    · exact hlines b hb
    · exact Nat.le_of_eq (hafter b hb).symm
  rw [List.pairwise_append, List.pairwise_append]
  simp only [pairwise_of_forall_eq hbefore, pairwise_of_forall_eq hafter, hsorted, true_and,
    and_iff_left hfirst]
  constructor
  · intro h
    cases after with
    | nil => exact Or.inl rfl
    | cons b rest =>
        refine Or.inr fun a ha => ?_
        rw [← hafter b List.mem_cons_self]
        exact h a ha b List.mem_cons_self
  · rintro (rfl | h) a ha b hb
    · cases hb
    · rw [hafter b hb]
      exact h a ha

end Order

section OneBranch

variable {lambda : Lambda} {reading : PageReading} {branch : Branch}

theorem linesOf_map_warning
    (lambda : Lambda)
    (odd : List (Nat × Oddity)) :
    linesOf (odd.map fun odd => lambda.warning odd.1 odd.2) =
      (odd.map Prod.fst).map lambda.lineOf := by
  rw [linesOf, List.filterMap_map, List.map_map]
  exact congrFun List.filterMap_eq_map odd

/-- Warnings about a place all have its line. -/
theorem eq_lineOf_of_mem_linesOf
    {offset line : Nat} {oddities : List Oddity}
    (h : line ∈ linesOf (oddities.map (lambda.warning offset))) :
    line = lambda.lineOf offset := by
  obtain ⟨warning, hwarning, hline⟩ := List.mem_filterMap.mp h
  obtain ⟨oddity, -, rfl⟩ := List.mem_map.mp hwarning
  exact (Option.some.inj hline).symm

/-- What is remarked on the page of a branch, once its markers have been read. -/
def pageRemarks (reading : PageReading) (contents : BranchContents) : List Oddity :=
  let ordinal := UInt32.ofNat reading.pages.length
  let identity := contents.identity.getD (PageReading.defaultIdentity ordinal)
  let id := freeId reading.pageIds identity.id
  (if contents.identity.isNone then [.missingPage ordinal] else [])
    ++ if id = identity.id then [] else [.renamedPage identity.id id]

/-- A page is remarked on or not as the markers of its branch say. -/
theorem pageRemarks_eq_nil_iff
    {markers : List PlacedMarker} {contents : BranchContents}
    (h : contents.identity = markers.findSome? pageOf?) :
    pageRemarks reading contents = [] ↔ ¬HasPageRemark reading.pages markers := by
  rw [HasPageRemark, ← h, pageRemarks]
  cases contents.identity with
  | none => simp
  | some identity => simp [freeId_eq_iff, PageReading.pageIds]

/-- The warnings about a branch that gets a page: about its label, its markers and its page. -/
theorem warnings_addBranch_eq
    {digits : List Char}
    (hdigits : branch.label.digits = some digits)
    (hroom : reading.pages.length < UInt32.size) :
    (reading.addBranch lambda branch).warnings =
      reading.warnings ++
        ((PageReading.labelOddity? digits (UInt32.ofNat reading.pages.length)).toList.map
            (lambda.warning branch.label.start) ++
          ((BranchContents.ofMarkers reading.widgetIds (markersIn lambda branch)).oddities.map
              (fun odd => lambda.warning odd.1 odd.2) ++
            (pageRemarks reading
              (BranchContents.ofMarkers reading.widgetIds (markersIn lambda branch))).map
                (lambda.warning branch.label.start))) := by
  rw [PageReading.addBranch_eq_addPage lambda reading hdigits, PageReading.addPage,
    if_neg (Nat.not_le.mpr hroom)]
  simp only [List.append_assoc]
  rfl

/-- The lines of the markers that are left over in a branch. -/
def leftOverLines (lambda : Lambda) (earlier : List Page) (branch : Branch) : List Nat :=
  (leftOver (widgetIdsOf earlier) [] (markersIn lambda branch)).map fun place =>
    lambda.lineOf place.1

/-- The markers that are left over in a branch stand behind its label. -/
theorem exists_of_mem_leftOverLines
    {earlier : List Page} {line : Nat}
    (h : line ∈ leftOverLines lambda earlier branch) :
    ∃ offset, line = lambda.lineOf offset ∧ branch.label.stop ≤ offset ∧
      offset < branch.stop := by
  obtain ⟨place, hplace, rfl⟩ := List.mem_map.mp h
  obtain ⟨-, -, -, hrange⟩ :=
    exists_comment_of_mem_markersIn ((leftOver_sublist _ _ _).subset hplace)
  exact ⟨place.1, rfl, hrange⟩

theorem pairwise_leftOverLines (lambda : Lambda) (earlier : List Page) (branch : Branch) :
    (leftOverLines lambda earlier branch).Pairwise (· ≤ ·) := by
  rw [leftOverLines, List.pairwise_map]
  refine List.Pairwise.sublist (leftOver_sublist _ _ _) ?_
  exact (pairwise_lineOf_markersOf List.filter_sublist).imp Nat.le_of_lt

/-- The remarks on the markers of a branch have the lines of those that are left over. -/
theorem linesOf_oddities
    {contents : BranchContents}
    (h : AccountsFor reading.widgetIds (markersIn lambda branch) contents) :
    linesOf (contents.oddities.map fun odd => lambda.warning odd.1 odd.2) =
      leftOverLines lambda reading.pages branch := by
  rw [linesOf_map_warning, h.offsets_eq, List.map_map]
  rfl

/-- **The warnings about one branch** have its lines, and they are in order unless they go back. -/
theorem exists_addBranch_eq
    (lambda : Lambda) (reading : PageReading)
    (hlabel : branch.label.start < branch.label.stop)
    (hbranch : branch.label.start < branch.stop) :
    ∃ added, (reading.addBranch lambda branch).warnings = reading.warnings ++ added ∧
      (∀ line ∈ linesOf added, ∃ offset, line = lambda.lineOf offset ∧
        branch.label.start ≤ offset ∧ offset < branch.stop) ∧
      (InSourceOrder added ↔
        (branch.label.digits.isSome = true → reading.pages.length < UInt32.size →
          ¬GoesBack lambda reading.pages branch)) := by
  have hstart : ∃ offset, lambda.lineOf branch.label.start = lambda.lineOf offset ∧
      branch.label.start ≤ offset ∧ offset < branch.stop :=
    ⟨_, rfl, Nat.le_refl _, hbranch⟩
  by_cases hskipped : branch.label.digits = none ∨ UInt32.size ≤ reading.pages.length
  · obtain ⟨oddities, hadd, -⟩ := PageReading.exists_addBranch_eq_of_skipped lambda hskipped
    refine ⟨_, congrArg PageReading.warnings hadd,
      fun line hline => eq_lineOf_of_mem_linesOf hline ▸ hstart, ?_⟩
    refine iff_of_true (pairwise_of_forall_eq fun _ => eq_lineOf_of_mem_linesOf) ?_
    intro hsome hroom
    rcases hskipped with hnone | hfull
    · rw [hnone] at hsome
      cases hsome
    · exact absurd hroom (Nat.not_lt.mpr hfull)
  · obtain ⟨hsome, hroom⟩ := not_or.mp hskipped
    obtain ⟨digits, hdigits⟩ := Option.ne_none_iff_exists'.mp hsome
    rw [Nat.not_le] at hroom
    refine ⟨_, warnings_addBranch_eq hdigits hroom, ?_⟩
    have haccount := accountsFor_ofMarkers reading.widgetIds (markersIn lambda branch)
    generalize BranchContents.ofMarkers reading.widgetIds (markersIn lambda branch) = contents
      at haccount
    have hremarks : linesOf ((pageRemarks reading contents).map
        (lambda.warning branch.label.start)) = [] ↔
          ¬HasPageRemark reading.pages (markersIn lambda branch) := by
      rw [← pageRemarks_eq_nil_iff haccount.identity_eq, linesOf, List.filterMap_map]
      cases pageRemarks reading contents <;> simp [Lambda.warning]
    have hleft (line : Nat) (hline : line ∈ leftOverLines lambda reading.pages branch) :
        lambda.lineOf branch.label.start ≤ line := by
      obtain ⟨offset, rfl, hlow, -⟩ := exists_of_mem_leftOverLines hline
      exact lineOf_mono lambda (by omega)
    constructor
    · simp only [linesOf_append, List.forall_mem_append, linesOf_oddities haccount]
      refine ⟨fun line hline => eq_lineOf_of_mem_linesOf hline ▸ hstart, ?_,
        fun line hline => eq_lineOf_of_mem_linesOf hline ▸ hstart⟩
      intro line hline
      obtain ⟨offset, rfl, hlow, hhigh⟩ := exists_of_mem_leftOverLines hline
      exact ⟨offset, rfl, by omega, hhigh⟩
    · rw [InSourceOrder, linesOf_append, linesOf_append, linesOf_oddities haccount,
        pairwise_around_iff (fun _ => eq_lineOf_of_mem_linesOf) hleft
          (pairwise_leftOverLines lambda _ branch) (fun _ => eq_lineOf_of_mem_linesOf), hremarks,
        ← imp_iff_not_or]
      simp only [hdigits, Option.isSome_some, hroom, forall_const, GoesBack, not_and, not_exists,
        Nat.not_lt, leftOverLines, List.forall_mem_map]

end OneBranch

section Branches

variable {lambda : Lambda} {branches : List Branch}

/-- Every warning about some branches has a line of one of them. -/
theorem exists_of_mem_linesOf_ofBranches
    (hbranches : ∀ branch ∈ branches,
      branch.label.start < branch.label.stop ∧ branch.label.start < branch.stop)
    {line : Nat}
    (h : line ∈ linesOf (PageReading.ofBranches lambda branches).warnings) :
    ∃ branch ∈ branches, ∃ offset, line = lambda.lineOf offset ∧
      branch.label.start ≤ offset ∧ offset < branch.stop := by
  induction branches using List.reverseRecOn with
  | nil =>
      cases h
  | append_singleton branches branch ih =>
      rw [List.forall_mem_append, List.forall_mem_singleton] at hbranches
      obtain ⟨added, hwarnings, hadded, -⟩ := exists_addBranch_eq lambda
        (PageReading.ofBranches lambda branches) hbranches.2.1 hbranches.2.2
      rw [PageReading.ofBranches_concat, hwarnings, linesOf_append, List.mem_append] at h
      rcases h with h | h
      · obtain ⟨other, hother, hline⟩ := ih hbranches.1 h
        exact ⟨other, List.mem_append_left _ hother, hline⟩
      · exact ⟨branch, List.mem_append_right _ (List.mem_singleton_self _), hadded line h⟩

/-- What holds of every branch behind the pages of the earlier ones, with one branch more. -/
theorem forall_getElem?_concat_iff
    {branches : List Branch} {pages : List Page} {branch : Branch} {page : Page}
    {p : List Page → Branch → Prop}
    (hlength : pages.length = branches.length) :
    (∀ k other, (branches ++ [branch])[k]? = some other → p ((pages ++ [page]).take k) other) ↔
      (∀ k other, branches[k]? = some other → p (pages.take k) other) ∧ p pages branch := by
  constructor
  · intro h
    constructor
    · intro k other hother
      have hk := (List.getElem?_eq_some_iff.mp hother).1
      have hp := h k other (by rw [List.getElem?_append_left hk, hother])
      rwa [List.take_append_of_le_length (by omega)] at hp
    · have hp := h branches.length branch List.getElem?_concat_length
      rwa [← hlength, List.take_left] at hp
  · rintro ⟨h, hlast⟩ k other hother
    by_cases hk : k < branches.length
    · rw [List.getElem?_append_left hk] at hother
      rw [List.take_append_of_le_length (by omega)]
      exact h k other hother
    · obtain rfl : k = branches.length := by
        have hlt := (List.getElem?_eq_some_iff.mp hother).1
        rw [List.length_append, List.length_singleton] at hlt
        omega
      rw [List.getElem?_concat_length, Option.some.injEq] at hother
      rw [← hlength, List.take_left, ← hother]
      exact hlast

/-- **The warnings about all branches** are in order unless those about one of them go back. -/
theorem inSourceOrder_ofBranches_iff
    (hbranches : ∀ branch ∈ branches,
      branch.label.start < branch.label.stop ∧ branch.label.start < branch.stop)
    (hpairwise : branches.Pairwise fun a b => a.stop ≤ b.label.start) :
    InSourceOrder (PageReading.ofBranches lambda branches).warnings ↔
      ∀ k branch, (ordinalBranches branches)[k]? = some branch →
        ¬GoesBack lambda ((PageReading.ofBranches lambda branches).pages.take k) branch := by
  induction branches using List.reverseRecOn with
  | nil =>
      simp [PageReading.ofBranches, InSourceOrder, linesOf, ordinalBranches]
  | append_singleton branches branch ih =>
      rw [List.forall_mem_append, List.forall_mem_singleton] at hbranches
      rw [List.pairwise_append] at hpairwise
      obtain ⟨hfirst, -, hbehind⟩ := hpairwise
      have hlength := (addsUpTo_ofBranches lambda branches).length_eq
      have hearlier (line : Nat)
          (hline : line ∈ linesOf (PageReading.ofBranches lambda branches).warnings) :
          line ≤ lambda.lineOf branch.label.start := by
        obtain ⟨other, hother, offset, rfl, -, hstop⟩ :=
          exists_of_mem_linesOf_ofBranches hbranches.1 hline
        have hnext := hbehind other hother branch (List.mem_singleton_self _)
        exact lineOf_mono lambda (by omega)
      have ih := ih hbranches.1 hfirst
      rw [PageReading.ofBranches_concat]
      generalize PageReading.ofBranches lambda branches = reading at hlength hearlier ih ⊢
      obtain ⟨added, hwarnings, hadded, horder⟩ :=
        exists_addBranch_eq lambda reading hbranches.2.1 hbranches.2.2
      have hlater (line : Nat) (hline : line ∈ linesOf added) :
          lambda.lineOf branch.label.start ≤ line := by
        obtain ⟨offset, rfl, hstart, -⟩ := hadded line hline
        exact lineOf_mono lambda hstart
      rw [hwarnings, inSourceOrder_append_iff hearlier hlater, ih, horder]
      by_cases hskipped : branch.label.digits = none ∨ UInt32.size ≤ reading.pages.length
      · rw [ordinalBranches_concat_of_skipped (hlength ▸ hskipped),
          (PageReading.addBranch_of_skipped lambda hskipped).1]
        refine and_iff_left fun hsome hroom => ?_
        rcases hskipped with hnone | hfull
        · rw [hnone] at hsome
          cases hsome
        · exact absurd hroom (Nat.not_lt.mpr hfull)
      · rw [not_or, ← ne_eq, ← Option.isSome_iff_ne_none, Nat.not_le] at hskipped
        obtain ⟨hsome, hroom⟩ := hskipped
        obtain ⟨⟨page, -, hpages⟩, -⟩ :=
          PageReading.exists_isPageOf_addBranch lambda hsome hroom
        rw [ordinalBranches_concat hsome (hlength ▸ hroom), hpages]
        simp only [hsome, hroom, forall_const]
        exact (forall_getElem?_concat_iff
          (p := fun earlier other => ¬GoesBack lambda earlier other) hlength).symm

end Branches

section Outside

variable {lambda : Lambda}

/-- A marker outside the branches names the device, or there is a warning with its line. -/
theorem linesOf_take (reading : IdentityReading) (place : PlacedMarker) :
    linesOf (reading.take lambda place).warnings =
      linesOf reading.warnings ++
        if (deviceOf? place).isSome && reading.identity.isNone then []
        else [lambda.lineOf place.1] := by
  have hwarn (oddity : Oddity) :
      linesOf (reading.warn (lambda.warning place.1 oddity)).warnings =
        linesOf reading.warnings ++ [lambda.lineOf place.1] :=
    linesOf_append _ _
  obtain ⟨offset, marking⟩ := place
  cases marking with
  | error error =>
      exact hwarn (.malformedMarker error)
  | ok marker =>
      simp only [IdentityReading.take]
      split
      · next htag =>
        rw [hwarn, if_neg (by simp [deviceOf?, htag])]
      · next htag =>
        rw [Decidable.not_not] at htag
        split
        · next hsome =>
          obtain ⟨identity, hidentity⟩ := Option.isSome_iff_exists.mp hsome
          rw [hwarn, if_neg (by simp [hidentity])]
        · next hnone =>
          rw [Option.not_isSome_iff_eq_none] at hnone
          cases hread : marker.device with
          | error error =>
              rw [hwarn, if_neg (by simp [deviceOf?, htag, hread, Except.toOption])]
          | ok identity =>
              rw [if_pos (by simp [deviceOf?, htag, hread, Except.toOption, hnone]),
                List.append_nil]

/-- **The warnings about the markers outside the branches** are those about the stray ones. -/
theorem linesOf_foldl_take (lambda : Lambda) (markers : List PlacedMarker) :
    linesOf (markers.foldl (IdentityReading.take lambda) {}).warnings =
      (strayMarkers markers).map fun place => lambda.lineOf place.1 := by
  induction markers using List.reverseRecOn with
  | nil =>
      rfl
  | append_singleton markers place ih =>
      have hidentity : (markers.foldl (IdentityReading.take lambda) {}).identity.isNone =
          !(markers.any fun place => (deviceOf? place).isSome) := by
        rw [(accountsFor_foldl_take lambda markers).identity_eq, ← Option.not_isSome,
          List.isSome_findSome?]
      rw [List.foldl_append, List.foldl_cons, List.foldl_nil, linesOf_take, ih, hidentity,
        strayMarkers, strayMarkers, List.eraseP_append]
      by_cases hany : (markers.any fun place => (deviceOf? place).isSome) = true
      · simp [hany]
      · rw [List.eraseP_of_forall_not (by simpa using hany)]
        by_cases hplace : (deviceOf? place).isSome = true <;> simp [hany, hplace]

theorem pairwise_lineOf_strayMarkers (start stop : Nat) :
    ((strayMarkers (markersOf (lambda.commentsOutside start stop))).map fun place =>
      lambda.lineOf place.1).Pairwise (· ≤ ·) := by
  rw [List.pairwise_map]
  refine List.Pairwise.sublist List.eraseP_sublist ?_
  exact (pairwise_lineOf_markersOf List.filter_sublist).imp Nat.le_of_lt

end Outside

namespace UsableDispatch

variable {lambda : Lambda} (usable : UsableDispatch lambda)

/-- The markers outside the branches that do not name the device. -/
def strays : List PlacedMarker :=
  strayMarkers (markersOf (lambda.commentsOutside usable.firstLabel (usable.closing + 1)))

/-- The first label begins with a visible character. -/
theorem exists_mem_code_firstLabel :
    ∃ place ∈ lambda.code, place.offset = usable.firstLabel ∧
      Text.isBlank place.char = false := by
  obtain ⟨branch, hbranch, -⟩ := usable.exists_mem_branches
  obtain ⟨first, rest, hfirst⟩ := List.exists_cons_of_ne_nil (List.ne_nil_of_mem hbranch)
  have hmem : first ∈ usable.branches := by
    rw [hfirst]
    exact List.mem_cons_self
  obtain ⟨place, hplace, hoffset, hvisible⟩ :=
    (mem_labelsAfter_iff_standsIn.mp
      (List.mem_filter.mp (label_mem_of_mem_branchesOf hmem)).1).exists_mem
  refine ⟨place, (List.mem_filter.mp hplace).1, ?_, hvisible⟩
  rw [hoffset, firstLabel, hfirst]
  rfl

/-- A stray marker ahead of the first label stands on an earlier line, any other behind the
dispatch. -/
theorem lineOf_strays
    {place : PlacedMarker}
    (h : place ∈ usable.strays) :
    (place.1 < usable.firstLabel ∧ lambda.lineOf place.1 < lambda.lineOf usable.firstLabel) ∨
      (usable.firstLabel ≤ place.1 ∧ usable.closing < place.1) := by
  obtain ⟨comment, hcomment, hoffset⟩ :=
    exists_comment_of_mem_markersOf (List.eraseP_sublist.subset h)
  obtain ⟨hmem, houtside⟩ := List.mem_filter.mp hcomment
  rw [hoffset] at houtside
  by_cases hahead : place.1 < usable.firstLabel
  · obtain ⟨label, hlabel, hstart, hvisible⟩ := usable.exists_mem_code_firstLabel
    have hlater := lineOf_lt_of_mem_code hmem hlabel hvisible (by omega)
    rw [hoffset, hstart] at hlater
    exact Or.inl ⟨hahead, hlater⟩
  · simp only [Bool.not_eq_true', Bool.and_eq_false_iff, decide_eq_false_iff_not] at houtside
    exact Or.inr ⟨Nat.not_lt.mp hahead, by omega⟩

theorem bounds_of_mem_branches :
    ∀ branch ∈ usable.branches,
      branch.label.start < branch.label.stop ∧ branch.label.start < branch.stop := by
  intro branch hbranch
  exact ⟨(branchLabel_bounds (label_mem_of_mem_branchesOf hbranch)).2.2,
    start_lt_branch_stop lambda usable.dispatch usable.closing hbranch⟩

/-- The warnings about the branches have lines from that of the first label to that of the closing
brace. -/
theorem bounds_of_mem_linesOf_reading
    {line : Nat}
    (h : line ∈ linesOf usable.reading.warnings) :
    lambda.lineOf usable.firstLabel ≤ line ∧ line ≤ lambda.lineOf usable.closing := by
  obtain ⟨branch, hbranch, offset, rfl, hstart, hstop⟩ :=
    exists_of_mem_linesOf_ofBranches usable.bounds_of_mem_branches h
  have hfirst : usable.firstLabel ≤ branch.label.start :=
    firstLabel_le lambda usable.dispatch usable.closing hbranch
  have hlast : branch.stop ≤ usable.closing :=
    branch_stop_le lambda usable.dispatch usable.closing hbranch
  exact ⟨lineOf_mono lambda (by omega), lineOf_mono lambda (by omega)⟩

/-- Whatever has been read of the branches, each warning about it has a line. -/
theorem reading_warnings_eq_nil_of_linesOf
    (h : linesOf usable.reading.warnings = []) :
    usable.reading.warnings = [] := by
  rw [linesOf, List.filterMap_eq_nil_iff] at h
  refine List.eq_nil_iff_forall_not_mem.mpr fun warning hwarning => ?_
  have hnone := h warning hwarning
  cases habout : warning.oddity.isAboutMarker with
  | true =>
      obtain ⟨place, -, hline⟩ := PageReading.line_of_isAboutMarker hwarning habout
      rw [hnone] at hline
      cases hline
  | false =>
      obtain ⟨branch, -, hline⟩ := PageReading.line_of_mem_warnings_ofBranches hwarning habout
      rw [hnone] at hline
      cases hline

/-- The warnings about the markers outside the branches can stand behind those about the branches if
there are none about the branches, or no stray marker is ahead of them. -/
theorem forall_linesOf_le_iff :
    (∀ a ∈ linesOf usable.reading.warnings, ∀ b ∈ linesOf usable.outside.warnings, a ≤ b) ↔
      usable.reading.warnings = [] ∨ ∀ place ∈ usable.strays, usable.firstLabel ≤ place.1 := by
  have hlines : linesOf usable.outside.warnings =
      usable.strays.map fun place => lambda.lineOf place.1 :=
    linesOf_foldl_take lambda _
  rw [hlines]
  constructor
  · intro h
    rw [or_iff_not_imp_left]
    intro hne place hplace
    obtain ⟨line, hline⟩ :=
      List.exists_mem_of_ne_nil _ (mt usable.reading_warnings_eq_nil_of_linesOf hne)
    have hle := h line hline _ (List.mem_map_of_mem hplace)
    have hfirst := (usable.bounds_of_mem_linesOf_reading hline).1
    rcases usable.lineOf_strays hplace with ⟨-, hahead⟩ | ⟨hbehind, -⟩
    · omega
    · exact hbehind
  · rintro h a ha b hb
    obtain ⟨place, hplace, rfl⟩ := List.mem_map.mp hb
    rcases h with hnil | hbehind
    · rw [hnil] at ha
      cases ha
    · rcases usable.lineOf_strays hplace with ⟨hahead, -⟩ | ⟨-, hclosing⟩
      · exact absurd (hbehind place hplace) (Nat.not_le.mpr hahead)
      · exact Nat.le_trans (usable.bounds_of_mem_linesOf_reading ha).2
          (lineOf_mono lambda (Nat.le_of_lt hclosing))

/-- **The warnings about a routine** are in the order of its text unless those about a branch go
back or a stray marker is ahead of all branches. -/
theorem inSourceOrder_warnings_iff
    {earlier : List Warning}
    (hearlier : ∀ warning ∈ earlier, warning.line = none)
    (deviceId : String) :
    InSourceOrder (usable.warnings earlier deviceId) ↔
      (∀ k branch, (ordinalBranches usable.branches)[k]? = some branch →
        ¬GoesBack lambda (usable.reading.pages.take k) branch) ∧
      (usable.reading.warnings = [] ∨
        ∀ place ∈ usable.strays, usable.firstLabel ≤ place.1) := by
  have hother : linesOf (otherDevice? usable.outside.identity deviceId).toList = [] := by
    refine linesOf_eq_nil fun warning hwarning => ?_
    exact (line_of_otherDevice? (Option.mem_toList.mp hwarning)).1
  have houtside : (linesOf usable.outside.warnings).Pairwise (· ≤ ·) := by
    rw [outside, IdentityReading.ofLambda, linesOf_foldl_take]
    exact pairwise_lineOf_strayMarkers _ _
  have hbranches : InSourceOrder usable.reading.warnings ↔ _ :=
    inSourceOrder_ofBranches_iff usable.bounds_of_mem_branches
      (pairwise_branches lambda usable.dispatch usable.closing)
  rw [InSourceOrder, warnings, linesOf_append, linesOf_append, linesOf_append,
    linesOf_eq_nil hearlier, hother, List.nil_append, List.append_nil, List.pairwise_append,
    ← InSourceOrder, hbranches, usable.forall_linesOf_le_iff, and_iff_right houtside]
  rfl

end UsableDispatch

section Documents

/-- **Exactly when the warnings about a snippet are in the order of its text.** -/
theorem importSnippet_inSourceOrder_iff
    {text deviceId : String} {imported : Imported}
    (h : importSnippet text deviceId = .ok imported) :
    Nonempty (UsableDocument text) ∧ ∀ doc : UsableDocument text,
      (InSourceOrder imported.warnings ↔
        (∀ k branch, (ordinalBranches doc.usable.branches)[k]? = some branch →
          ¬GoesBack doc.lambda (imported.device.pages.take k) branch) ∧
        (doc.usable.reading.warnings = [] ∨
          ∀ place ∈ doc.usable.strays, doc.usable.firstLabel ≤ place.1)) := by
  refine ⟨nonempty_usableDocument deviceId (by rw [h]; trivial), fun doc => ?_⟩
  rw [doc.importSnippet_eq] at h
  split at h
  · rw [← Except.ok.inj h]
    refine doc.usable.inSourceOrder_warnings_iff ?_ deviceId
    intro warning hwarning
    obtain ⟨name, -, rfl⟩ := List.mem_map.mp hwarning
    rfl
  · cases h

/-- A page with another number than its label and a damaged widget, and a stray marker behind it. -/
def orderlyRemarks : String :=
  "display:\n lambda: |\n  switch(id(display_page))\x7b\n  case 4:\n  // @page id=p\n" ++
    "  // @widget id=w\n  \x7d\n  // @page id=q\n"

/-- The drawing routine with that page. -/
def orderlyRemarksRoutine : String :=
  "switch(id(display_page))\x7b\ncase 4:\n// @page id=p\n" ++
    "// @widget id=w\n\x7d\n// @page id=q\n"

theorem hasRoutine_orderlyRemarks : HasRoutine orderlyRemarks orderlyRemarksRoutine := by
  rewrite [HasRoutine, loadDocument, Yaml.Value.ofText, Yaml.TokenStream.ofText,
    show orderlyRemarks.toList = _ from
      toList_append_eq String.toList_ofList String.toList_ofList]
  decide +kernel

theorem importSnippet_orderlyRemarks_eq :
    importSnippet orderlyRemarks "panel" = .ok {
      device := { id := "panel", name := "panel"
                  pages := [{ id := "p", title := "", ordinal := 0 }] }
      warnings := [
        { line := some 4, oddity := .renumbered 4 0 },
        { line := some 6, oddity := .malformedData .widget (.missingField .widget "kind") },
        { line := some 8, oddity := .outsideBranch .page }] } := by
  rewrite [hasRoutine_orderlyRemarks.importSnippet_eq, Lambda.ofText, firstLine,
    show orderlyRemarksRoutine.toList = _ from
      toList_append_eq String.toList_ofList String.toList_ofList,
    show orderlyRemarks.toList = _ from
      toList_append_eq String.toList_ofList String.toList_ofList]
  decide +kernel

/-- The remarks on that page are in order, so none goes back. -/
theorem importSnippet_inSourceOrder_orderlyRemarks :
    ∃ imported, importSnippet orderlyRemarks "panel" = .ok imported ∧
      ∃ doc : UsableDocument orderlyRemarks,
        (∀ k branch, (ordinalBranches doc.usable.branches)[k]? = some branch →
          ¬GoesBack doc.lambda (imported.device.pages.take k) branch) ∧
        (doc.usable.reading.warnings = [] ∨
          ∀ place ∈ doc.usable.strays, doc.usable.firstLabel ≤ place.1) := by
  obtain ⟨⟨doc⟩, horder⟩ := importSnippet_inSourceOrder_iff importSnippet_orderlyRemarks_eq
  exact ⟨_, importSnippet_orderlyRemarks_eq, doc, (horder doc).mp (by decide)⟩

/-- A page with a damaged widget and no marker of its own, behind a stray page marker. -/
def lateRemarks : String :=
  "display:\n lambda: |\n  // @page id=p title=Hall\n  switch(id(display_page))\x7b\n" ++
    "  case 0:\n  // @widget id=w\n  \x7d\n"

/-- The drawing routine with that page. -/
def lateRemarksRoutine : String :=
  "// @page id=p title=Hall\nswitch(id(display_page))\x7b\n" ++
    "case 0:\n// @widget id=w\n\x7d\n"

theorem hasRoutine_lateRemarks : HasRoutine lateRemarks lateRemarksRoutine := by
  rewrite [HasRoutine, loadDocument, Yaml.Value.ofText, Yaml.TokenStream.ofText,
    show lateRemarks.toList = _ from
      toList_append_eq String.toList_ofList String.toList_ofList]
  decide +kernel

/-- The remarks on that page go back twice: to its label, and to the marker ahead of it. -/
theorem importSnippet_lateRemarks :
    ∃ imported, importSnippet lateRemarks "panel" = .ok imported ∧
      linesOf imported.warnings = [6, 5, 3] ∧ ¬InSourceOrder imported.warnings := by
  have hread : importSnippet lateRemarks "panel" = .ok {
      device := { id := "panel", name := "panel"
                  pages := [{ id := "page_0", title := "Page 1", ordinal := 0 }] }
      warnings := [
        { line := some 6, oddity := .malformedData .widget (.missingField .widget "kind") },
        { line := some 5, oddity := .missingPage 0 },
        { line := some 3, oddity := .outsideBranch .page }] } := by
    rewrite [hasRoutine_lateRemarks.importSnippet_eq, Lambda.ofText, firstLine,
      show lateRemarksRoutine.toList = _ from
        toList_append_eq String.toList_ofList String.toList_ofList,
      show lateRemarks.toList = _ from
        toList_append_eq String.toList_ofList String.toList_ofList]
    decide +kernel
  exact ⟨_, hread, rfl, by decide⟩

end Documents

end Snippet
end EpaperLayout
