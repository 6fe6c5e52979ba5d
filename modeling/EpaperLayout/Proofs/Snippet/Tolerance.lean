import EpaperLayout.Proofs.Snippet.PageSequence
import EpaperLayout.Proofs.Snippet.UsableDispatch

/-!
# What is read keeps all rules

Reading mends or skips whatever would break a rule for devices: identifiers of
pages are renamed, ordinals follow the order of the branches, and a widget is only
taken if it has no flaws and a new identifier.  These piecemeal checks add up to
validation: the pages that are read have no violations, however the markers and
the numbers of the labels look.

**Results.**
* `IsPageOf.violations_eq_nil`: the page of a branch has no violations behind the
  pages before it.
* `UsableDispatch.violations_device`: the device that is read breaks at most the
  rule for its own identifier, which the caller gives.
* `importSnippet_tolerates`: only a document without a usable dispatch is refused.
-/

namespace EpaperLayout
namespace Snippet

/-- Widgets without flaws have no violations after those with known identifiers are left out. -/
theorem widgetViolations_firstById
    {used : List String} {widgets : List Widget}
    (ordinal : UInt32)
    (h : ∀ widget ∈ widgets, widget.flaws = []) :
    Page.widgetViolations ordinal used (firstById used widgets) = [] := by
  induction widgets generalizing used with
  | nil =>
      rfl
  | cons widget rest ih =>
      have hrest : ∀ other ∈ rest, other.flaws = [] := by
        intro other hother
        exact h other (List.mem_cons_of_mem _ hother)
      unfold firstById
      split
      · exact ih hrest
      · next hnew =>
        rw [Page.widgetViolations, List.append_eq_nil_iff]
        refine ⟨?_, ih hrest⟩
        rw [Widget.violations_eq_nil_iff]
        exact ⟨h widget List.mem_cons_self, hnew⟩

/-- The page of a branch has no violations behind the pages before it. -/
theorem IsPageOf.violations_eq_nil
    {earlier : List Page} {markers : List PlacedMarker} {page : Page}
    (h : IsPageOf earlier markers page) :
    page.violations earlier = [] := by
  rw [Page.violations_eq_nil_iff]
  refine ⟨h.ordinal_eq, h.id_notBlank, h.id_new, ?_⟩
  rw [h.widgets_eq]
  refine widgetViolations_firstById page.ordinal ?_
  intro widget hwidget
  obtain ⟨place, -, hplace⟩ := List.mem_filterMap.mp hwidget
  exact flaws_of_widgetOf? hplace

/-- The pages that are read of any branches have no violations. -/
theorem pageViolations_ofBranches (lambda : Lambda) (branches : List Branch) :
    Device.pageViolations [] (PageReading.ofBranches lambda branches).pages = [] := by
  refine Device.pageViolations_eq_nil ?_
  intro k page hpage
  obtain ⟨branch, -, hisPage⟩ := (addsUpTo_ofBranches lambda branches).isPageOf k page hpage
  exact hisPage.violations_eq_nil

namespace UsableDispatch

variable {lambda : Lambda} (usable : UsableDispatch lambda)

theorem pages_ne_nil : usable.reading.pages ≠ [] := by
  obtain ⟨branch, hbranch, hdigits⟩ := usable.exists_mem_branches
  have hpos : 0 < usable.pageBranches.length := by
    rw [List.length_pos_iff_exists_mem]
    exact ⟨branch, List.mem_filter.mpr ⟨hbranch, hdigits⟩⟩
  have hlength : usable.reading.pages.length = min UInt32.size usable.pageBranches.length := by
    rw [reading, (addsUpTo_ofBranches lambda usable.branches).length_eq, ordinalBranches,
      List.length_take]
    rfl
  rw [← List.length_pos_iff, hlength]
  exact Nat.lt_min.mpr ⟨by decide, hpos⟩

/-- The device that is read breaks at most the rule for its own identifier. -/
theorem violations_device (deviceId : String) :
    (usable.device deviceId).violations =
      if Text.isBlankText deviceId then [.blankDeviceId] else [] := by
  have hpages : (usable.device deviceId).pages ≠ [] := usable.pages_ne_nil
  rw [Device.violations_of_pages_ne_nil hpages]
  have hnone : Device.pageViolations [] (usable.device deviceId).pages = [] :=
    pageViolations_ofBranches lambda usable.branches
  rw [hnone, List.append_nil]
  rfl

end UsableDispatch

namespace UsableDocument

variable {text : String} (doc : UsableDocument text)

theorem isValid_device
    {deviceId : String}
    (h : Text.isBlankText deviceId = false) :
    (doc.device deviceId).validate.isValid = true := by
  rw [Device.isValid_validate_iff]
  have hviolations := doc.usable.violations_device deviceId
  rw [h] at hviolations
  exact hviolations

/-- With an identifier a document with a usable dispatch is never refused. -/
theorem importSnippet_eq_ok
    {deviceId : String}
    (h : Text.isBlankText deviceId = false) :
    importSnippet text deviceId =
      .ok { device := doc.device deviceId, warnings := doc.warnings deviceId } := by
  rw [doc.importSnippet_eq, if_pos (doc.isValid_device h)]

/-- Without an identifier it is refused for that alone. -/
theorem importSnippet_eq_error
    {deviceId : String}
    (h : Text.isBlankText deviceId = true) :
    importSnippet text deviceId = .error (.invalidLayout (doc.device deviceId).validate) ∧
      (doc.device deviceId).validate.errors = [Violation.blankDeviceId.problem] := by
  have hviolations : (doc.device deviceId).violations = [.blankDeviceId] := by
    have hdevice := doc.usable.violations_device deviceId
    rw [h] at hdevice
    exact hdevice
  have hinvalid : ¬(doc.device deviceId).validate.isValid = true := by
    rw [Device.isValid_validate_iff, hviolations]
    exact List.cons_ne_nil _ _
  refine ⟨?_, ?_⟩
  · rw [doc.importSnippet_eq, if_neg hinvalid]
  · rw [Device.validate, hviolations]
    rfl

end UsableDocument

/-- **Only a document without a usable dispatch is refused.** -/
theorem importSnippet_tolerates (text : String) :
    (∀ deviceId, Text.isBlankText deviceId = false →
      (∀ report, importSnippet text deviceId ≠ .error (.invalidLayout report)) ∧
      ((∃ imported, importSnippet text deviceId = .ok imported ∧
          imported.device.validate.errors = [])
        ↔
      Nonempty (UsableDocument text))) ∧
    (∀ deviceId, Text.isBlankText deviceId = true → Nonempty (UsableDocument text) →
      ∃ report, importSnippet text deviceId = .error (.invalidLayout report) ∧
        report.errors = [Violation.blankDeviceId.problem]) := by
  constructor
  · intro deviceId hid
    constructor
    · intro report hreport
      obtain ⟨doc⟩ : Nonempty (UsableDocument text) := by
        refine nonempty_usableDocument deviceId ?_
        rw [hreport]
        exact True.intro
      rw [doc.importSnippet_eq_ok hid] at hreport
      cases hreport
    · constructor
      · rintro ⟨imported, himported, -⟩
        refine nonempty_usableDocument deviceId ?_
        rw [himported]
        exact True.intro
      · rintro ⟨doc⟩
        refine ⟨_, doc.importSnippet_eq_ok hid, ?_⟩
        have hvalid := doc.isValid_device hid
        rwa [Report.isValid, List.isEmpty_iff] at hvalid
  · rintro deviceId hid ⟨doc⟩
    obtain ⟨hrefused, herrors⟩ := doc.importSnippet_eq_error hid
    exact ⟨_, hrefused, herrors⟩

/-- A display with two pages of the same number, far out of order, that share an identifier. -/
def clashingPages : String :=
  "display:\n lambda: |\n  switch(id(display_page))\x7b\n  case 99:\n  //@page id=a\n" ++
    "  case 99://@page id=a\n  \x7d\n"

/-- The drawing routine with these pages. -/
def clashingPagesRoutine : String :=
  "switch(id(display_page))\x7b\ncase 99:\n//@page id=a\n" ++ "case 99://@page id=a\n\x7d\n"

theorem hasRoutine_clashingPages : HasRoutine clashingPages clashingPagesRoutine := by
  rewrite [HasRoutine, loadDocument, Yaml.Value.ofText, Yaml.TokenStream.ofText,
    show clashingPages.toList = _ from
      toList_append_eq String.toList_ofList String.toList_ofList]
  decide +kernel

theorem importSnippet_clashingPages_eq :
    importSnippet clashingPages "panel" = .ok {
      device := { id := "panel", name := "panel"
                  pages := [{ id := "a", title := "", ordinal := 0 },
                    { id := "a_2", title := "", ordinal := 1 }] }
      warnings := [
        { line := some 4, oddity := .renumbered 99 0 },
        { line := some 6, oddity := .renumbered 99 1 },
        { line := some 6, oddity := .renamedPage "a" "a_2" }] } := by
  -- the texts are spelled out, so that nothing has to decode them
  rewrite [hasRoutine_clashingPages.importSnippet_eq, Lambda.ofText, firstLine,
    show clashingPagesRoutine.toList = _ from
      toList_append_eq String.toList_ofList String.toList_ofList,
    show clashingPages.toList = _ from
      toList_append_eq String.toList_ofList String.toList_ofList]
  decide +kernel

/-- The clashing pages are read, and refused for a blank identifier only. -/
theorem importSnippet_clashingPages :
    (∃ imported, importSnippet clashingPages "panel" = .ok imported ∧
        imported.device.validate.errors = []) ∧
      ∃ report, importSnippet clashingPages " " = .error (.invalidLayout report) ∧
        report.errors = [Violation.blankDeviceId.problem] := by
  have hdoc : Nonempty (UsableDocument clashingPages) :=
    nonempty_usableDocument "panel" (by rw [importSnippet_clashingPages_eq]; trivial)
  obtain ⟨htolerated, hblank⟩ := importSnippet_tolerates clashingPages
  exact ⟨((htolerated "panel" (by decide +kernel)).2).mpr hdoc,
    hblank " " (by decide +kernel) hdoc⟩

end Snippet
end EpaperLayout
