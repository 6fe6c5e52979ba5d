import EpaperLayout.Layout.Validation
import Mathlib.Tactic

/-!
# Devices without violations, page by page

Validation goes through a device from the front and compares every page and
widget with those before it.  So the violations of a longer list of pages are
those of its start and those of the rest, seen behind that start, and a device
is free of violations exactly when each page is, behind the pages before it.

Everything that builds or reads pages one after the other uses validation in
this form: a page may be added as soon as it has no violations behind the pages
that are there already.
-/

namespace EpaperLayout

namespace Widget

/-- A widget without flaws has an identifier that is not blank. -/
theorem isBlankText_id_of_flaws_eq_nil
    {widget : Widget}
    (h : widget.flaws = []) :
    Text.isBlankText widget.id = false := by
  have hid : widget.idFlaws = [] := by
    simp only [flaws, List.append_eq_nil_iff] at h
    exact h.1.1.1.1.1.1
  by_contra hblank
  simp [idFlaws, hblank] at hid

/-- A widget has no violations if it has no flaws and its identifier is new. -/
theorem violations_eq_nil_iff
    (ordinal : UInt32) (earlier : List String) (widget : Widget) :
    widget.violations ordinal earlier = []
      ↔
    widget.flaws = [] ∧ widget.id ∉ earlier := by
  rw [violations, List.append_eq_nil_iff, List.map_eq_nil_iff]
  constructor
  · rintro ⟨hflaws, hnew⟩
    have hid := isBlankText_id_of_flaws_eq_nil hflaws
    refine ⟨hflaws, ?_⟩
    intro hmem
    simp [hid, hmem] at hnew
  · rintro ⟨hflaws, hnew⟩
    exact ⟨hflaws, by simp [hnew]⟩

theorem problems_eq_nil_iff (widget : Widget) :
    widget.problems = [] ↔ widget.flaws = [] := by
  simp [problems]

end Widget

namespace Page

/-- Leaving out widgets brings no violations. -/
theorem widgetViolations_eq_nil_of_sublist
    {ordinal : UInt32} {used known : List String} {fewer widgets : List Widget}
    (hfewer : fewer.Sublist widgets)
    (hused : used ⊆ known)
    (h : widgetViolations ordinal known widgets = []) :
    widgetViolations ordinal used fewer = [] := by
  induction hfewer generalizing used known with
  | slnil =>
      rfl
  | cons widget _ ih =>
      rw [widgetViolations, List.append_eq_nil_iff] at h
      exact ih (List.subset_append_of_subset_left _ hused) h.2
  | cons_cons widget _ ih =>
      rw [widgetViolations, List.append_eq_nil_iff, Widget.violations_eq_nil_iff] at h
      obtain ⟨⟨hflaws, hnew⟩, hrest⟩ := h
      rw [widgetViolations, List.append_eq_nil_iff, Widget.violations_eq_nil_iff]
      refine ⟨⟨hflaws, fun hmem => hnew (hused hmem)⟩, ih ?_ hrest⟩
      exact List.append_subset.mpr ⟨List.subset_append_of_subset_left _ hused,
        List.subset_append_right _ _⟩

/-- A page has no violations if its ordinal is its position, its identifier is not blank and new,
and its widgets have none. -/
theorem violations_eq_nil_iff (earlier : List Page) (page : Page) :
    page.violations earlier = []
      ↔
    page.ordinal.toNat = earlier.length ∧
      Text.isBlankText page.id = false ∧
      page.id ∉ earlier.map Page.id ∧
      widgetViolations page.ordinal ((earlier.flatMap Page.widgets).map Widget.id)
        page.widgets = [] := by
  rw [violations, List.append_eq_nil_iff, List.append_eq_nil_iff]
  have hordinal :
      (if page.ordinal.toNat = earlier.length then []
        else [Violation.ordinalOffPosition earlier.length page.ordinal]) = []
        ↔ page.ordinal.toNat = earlier.length := by
    split <;> simp_all
  have hid :
      idViolations (earlier.map Page.id) page = []
        ↔ Text.isBlankText page.id = false ∧ page.id ∉ earlier.map Page.id := by
    unfold idViolations
    cases Text.isBlankText page.id with
    | true => simp
    | false => simp
  rw [hordinal, hid, and_assoc, and_assoc]

end Page

namespace Device

/-- Further pages are seen behind the first ones. -/
theorem pageViolations_append (earlier first second : List Page) :
    pageViolations earlier (first ++ second) =
      pageViolations earlier first ++ pageViolations (earlier ++ first) second := by
  induction first generalizing earlier with
  | nil =>
      simp [pageViolations]
  | cons page rest ih =>
      simp [pageViolations, ih]

/-- One more page brings its own violations behind the pages that are there. -/
theorem pageViolations_concat (pages : List Page) (page : Page) :
    pageViolations [] (pages ++ [page]) =
      pageViolations [] pages ++ page.violations pages := by
  simp [pageViolations_append, pageViolations]

/-- Pages have no violations if each has none behind those before it. -/
theorem pageViolations_eq_nil
    {pages : List Page}
    (h : ∀ (k : Nat) (page : Page), pages[k]? = some page →
      page.violations (pages.take k) = []) :
    pageViolations [] pages = [] := by
  induction pages using List.reverseRecOn with
  | nil =>
      rfl
  | append_singleton pages page ih =>
      rw [pageViolations_concat, List.append_eq_nil_iff]
      constructor
      · refine ih ?_
        intro k other hother
        have hk : k < pages.length := (List.getElem?_eq_some_iff.mp hother).1
        have hlonger := h k other (by rw [List.getElem?_append_left hk, hother])
        rwa [List.take_append_of_le_length (Nat.le_of_lt hk)] at hlonger
      · have hlast := h pages.length page List.getElem?_concat_length
        rwa [List.take_left] at hlast

/-- A device with pages has the violations of its pages, and its blank identifier. -/
theorem violations_of_pages_ne_nil
    {device : Device}
    (h : device.pages ≠ []) :
    device.violations =
      (if Text.isBlankText device.id then [.blankDeviceId] else [])
        ++ pageViolations [] device.pages := by
  simp [violations, h]

theorem violations_eq_nil_iff (device : Device) :
    device.violations = []
      ↔
    Text.isBlankText device.id = false ∧
      device.pages ≠ [] ∧
      pageViolations [] device.pages = [] := by
  by_cases hpages : device.pages = []
  · simp [violations, hpages]
  · rw [violations_of_pages_ne_nil hpages, List.append_eq_nil_iff]
    cases Text.isBlankText device.id <;> simp [hpages]

theorem isValid_validate_iff (device : Device) :
    device.validate.isValid = true ↔ device.violations = [] := by
  simp [validate, Report.isValid]

end Device
end EpaperLayout
