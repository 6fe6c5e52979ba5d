import EpaperLayout.Proofs.Layout.ExactReport
import EpaperLayout.Proofs.Layout.PageOrder
import EpaperLayout.Snippet.Generation
import Mathlib.Tactic

/-!
# Editing a valid device

A device that keeps every rule can be tidied up without another look at the rules: pages
may be moved, renumbered and removed as long as one is left, widgets may be removed and
clamped, and titles and the name of the device may be changed.  A page that is added is
the only thing that can break a rule, and it is enough to look at the page.

**Input.**  A device and a list of `Revision`s.  A `Revision` of one page is a
`PageRevision`; it never assigns an identifier or an ordinal.

**Argument.**  Validity is used as `Device.Valid`, which speaks of whole lists.  Each
revision leaves the ordinals in order, and leaves identifiers and widgets out or
rearranges them; a widget that lies on the canvas is not changed by clamping.
`Valid.of_subperm` turns this into validity, so no revision looks at the rules itself.

**Results.**
* `isValid_iff_valid`, `problems_eq_nil_iff_sound`: validation and the rules.
* `Valid.revise`, `valid_revisions`: a revision keeps a device valid, and so does
  every list of revisions.
* `valid_addPage_iff`: when a device is valid after a page was added.
* `valid_edited`: both, about the reports.
-/

namespace EpaperLayout

/-- A change of one page. -/
inductive PageRevision where
  | removeWidget (id : String)
  | clampWidgets
  /-- The widget at the position is clamped alone. -/
  | clampWidget (position : Nat)
  | retitle (title : String)
deriving DecidableEq, Repr

/-- The page after a change. -/
def PageRevision.apply : PageRevision → Page → Page
  | .removeWidget id, page => page.removeWidget id
  | .clampWidgets, page => page.clampWidgets
  | .clampWidget position, page =>
    { page with widgets := page.widgets.modify position Widget.clamp }
  | .retitle title, page => { page with title }

/-- A change of a device that adds no page and no widget. -/
inductive Revision where
  | movePage (source target : Nat)
  | removePage (ordinal : UInt32)
  | renumber
  | revisePage (ordinal : UInt32) (revision : PageRevision)
  | rename (name : String)
deriving DecidableEq, Repr

namespace Device

/-- The device that a change leaves. -/
def revise (device : Device) : Revision → Device
  | .movePage source target => device.edit (.movePage source target)
  | .removePage ordinal => device.edit (.removePage ordinal)
  | .renumber => device.edit .renumber
  | .revisePage ordinal revision => device.modifyPage ordinal revision.apply
  | .rename name => { device with name }

/-- A page is removed only while another one is left. -/
def Permits (device : Device) : Revision → Prop
  | .removePage _ => 1 < device.pages.length
  | _ => True

/-- The device after all changes of a list, one after the other. -/
def revisions (device : Device) (history : List Revision) : Device :=
  history.foldl revise device

/-- Every change of a list is permitted when its turn comes. -/
def PermitsAll : Device → List Revision → Prop
  | _, [] => True
  | device, revision :: rest => device.Permits revision ∧ PermitsAll (device.revise revision) rest

instance decidablePermits : ∀ (device : Device) (revision : Revision),
    Decidable (device.Permits revision)
  | device, .removePage _ => inferInstanceAs (Decidable (1 < device.pages.length))
  | _, .movePage _ _ => isTrue trivial
  | _, .renumber => isTrue trivial
  | _, .revisePage _ _ => isTrue trivial
  | _, .rename _ => isTrue trivial

instance decidablePermitsAll : ∀ (device : Device) (history : List Revision),
    Decidable (device.PermitsAll history)
  | _, [] => isTrue trivial
  | device, revision :: rest =>
    have := decidablePermitsAll (device.revise revision) rest
    inferInstanceAs (Decidable (device.Permits revision ∧ _))

end Device

/-! ## Validation and the rules -/

namespace Widget

/-- Nothing is wrong with a widget by itself exactly when it is sound. -/
theorem problems_eq_nil_iff_sound (widget : Widget) :
    widget.problems = [] ↔ widget.Sound := by
  rw [problems_eq_nil_iff, sound_iff]
  constructor
  · intro h kind
    rw [← tally_flaws, h]
    rfl
  · intro h
    refine List.eq_nil_iff_forall_not_mem.mpr ?_
    intro flaw hflaw
    have htally := widget.tally_flaws flaw.kind
    rw [h] at htally
    exact absurd (List.countP_eq_zero.mp htally flaw hflaw) (by simp)

/-- A size within the extent stays what it is. -/
theorem clampSize_eq_self
    {size extent : UInt32}
    (hpos : 1 ≤ size.toNat)
    (hle : size.toNat ≤ extent.toNat) :
    clampSize size extent = size := by
  rw [clampSize, if_neg, if_neg]
  · rw [UInt32.lt_iff_toNat_lt]
    omega
  · rw [UInt32.lt_iff_toNat_lt]
    exact Nat.not_lt.mpr hpos

/-- A start from which the element lies within the extent stays what it is. -/
theorem clampStart_eq_self
    {start size extent : UInt32}
    (h : start.toNat + size.toNat ≤ extent.toNat) :
    clampStart start size extent = start := by
  have hsize : size ≤ extent := by
    rw [UInt32.le_iff_toNat_le]
    omega
  rw [clampStart, if_pos]
  rw [UInt32.le_iff_toNat_le, UInt32.toNat_sub_of_le _ _ hsize]
  omega

/-- The widget has an area, and all of it lies on the canvas. -/
structure OnCanvas (widget : Widget) : Prop where
  width_pos : 1 ≤ widget.width.toNat
  height_pos : 1 ≤ widget.height.toNat
  right_le : widget.x.toNat + widget.width.toNat ≤ 800
  bottom_le : widget.y.toNat + widget.height.toNat ≤ 480

/-- A widget on the canvas is not changed by clamping. -/
theorem OnCanvas.clamp_eq
    {widget : Widget}
    (h : widget.OnCanvas) :
    widget.clamp = widget := by
  have hright := h.right_le
  have hbottom := h.bottom_le
  have hwidth : clampSize widget.width canvasWidth = widget.width :=
    clampSize_eq_self h.width_pos (by change widget.width.toNat ≤ 800; omega)
  have hheight : clampSize widget.height canvasHeight = widget.height :=
    clampSize_eq_self h.height_pos (by change widget.height.toNat ≤ 480; omega)
  have hx : clampStart widget.x widget.width canvasWidth = widget.x := clampStart_eq_self hright
  have hy : clampStart widget.y widget.height canvasHeight = widget.y := clampStart_eq_self hbottom
  simp only [clamp, hwidth, hheight, hx, hy]

theorem Sound.onCanvas
    {widget : Widget}
    (h : widget.Sound) :
    widget.OnCanvas :=
  ⟨h.width_pos, h.height_pos, h.right_le, h.bottom_le⟩

/-- A sound widget is not changed by clamping. -/
theorem Sound.clamp_eq
    {widget : Widget}
    (h : widget.Sound) :
    widget.clamp = widget :=
  h.onCanvas.clamp_eq

end Widget

namespace Device

/-- Validation reports nothing exactly when the device keeps every rule. -/
theorem isValid_iff_valid (device : Device) :
    device.validate.isValid = true ↔ device.Valid := by
  rw [isValid_validate_iff, Violation.eq_nil_iff_tally, valid_iff]
  simp only [tally_violations]

end Device

/-! ## What a revision leaves -/

/-- What is left out or rearranged stays without repetitions. -/
theorem nodup_of_subperm
    {α : Type} {kept items : List α}
    (hkept : kept.Subperm items)
    (h : items.Nodup) :
    kept.Nodup := by
  obtain ⟨between, hperm, hsublist⟩ := hkept
  exact (h.sublist hsublist).perm hperm

/-- The page `changed` is `page` with a title of its own and perhaps without some widgets. -/
structure Page.Reduces (page changed : Page) : Prop where
  id_eq : changed.id = page.id
  ordinal_eq : changed.ordinal = page.ordinal
  widgets_sublist : changed.widgets.Sublist page.widgets

theorem Page.Reduces.refl (page : Page) : page.Reduces page :=
  ⟨rfl, rfl, List.Sublist.refl _⟩

/-- A change of a page with sound widgets only leaves something out. -/
theorem PageRevision.reduces
    {page : Page}
    (h : ∀ widget ∈ page.widgets, widget.Sound)
    (revision : PageRevision) :
    page.Reduces (revision.apply page) := by
  cases revision with
  | removeWidget id =>
      exact ⟨rfl, rfl, List.eraseP_sublist⟩
  | clampWidgets =>
      have hwidgets : page.widgets.map Widget.clamp = page.widgets := by
        conv_rhs => rw [← List.map_id page.widgets]
        exact List.map_congr_left fun widget hwidget => (h widget hwidget).clamp_eq
      exact ⟨rfl, rfl, hwidgets ▸ List.Sublist.refl _⟩
  | clampWidget position =>
      have hwidgets : page.widgets.modify position Widget.clamp = page.widgets := by
        refine List.ext_getElem? ?_
        intro k
        rw [List.getElem?_modify]
        split
        · cases hget : page.widgets[k]? with
          | none => rfl
          | some widget =>
              exact congrArg some (h widget (List.mem_of_getElem? hget)).clamp_eq
        · simp
      exact ⟨rfl, rfl, hwidgets ▸ List.Sublist.refl _⟩
  | retitle title =>
      exact ⟨rfl, rfl, List.Sublist.refl _⟩

namespace Device

theorem forall₂_modifyFirst
    {pages : List Page} {change : Page → Page}
    (h : ∀ page ∈ pages, page.Reduces (change page))
    (ordinal : UInt32) :
    List.Forall₂ Page.Reduces pages (modifyFirst ordinal change pages) := by
  induction pages with
  | nil =>
      exact List.Forall₂.nil
  | cons page rest ih =>
      rw [List.forall_mem_cons] at h
      rw [modifyFirst]
      split
      · exact List.Forall₂.cons h.1
          (List.forall₂_same.mpr fun other _ => Page.Reduces.refl other)
      · exact List.Forall₂.cons (Page.Reduces.refl page) (ih h.2)

/-- Pages that only lose widgets keep their identifiers and ordinals. -/
theorem map_eq_of_forall₂_reduces
    {pages changed : List Page}
    (h : List.Forall₂ Page.Reduces pages changed) :
    changed.map Page.id = pages.map Page.id ∧
      changed.map Page.ordinal = pages.map Page.ordinal ∧
      (changed.flatMap Page.widgets).Sublist (pages.flatMap Page.widgets) := by
  induction h with
  | nil =>
      exact ⟨rfl, rfl, List.Sublist.refl _⟩
  | cons hpage _ ih =>
      obtain ⟨hids, hordinals, hwidgets⟩ := ih
      refine ⟨?_, ?_, ?_⟩
      · rw [List.map_cons, List.map_cons, hpage.id_eq, hids]
      · rw [List.map_cons, List.map_cons, hpage.ordinal_eq, hordinals]
      · rw [List.flatMap_cons, List.flatMap_cons]
        exact hpage.widgets_sublist.append hwidgets

section Steps

variable {device changed : Device}

/-- **What leaves out and rearranges keeps the rules**, if the ordinals are put in order. -/
theorem Valid.of_subperm
    (h : device.Valid)
    (hid : changed.id = device.id)
    (hpages : changed.pages ≠ [])
    (horder : changed.InOrder)
    (hids : (changed.pages.map Page.id).Subperm (device.pages.map Page.id))
    (hwidgets : changed.widgets.Subperm device.widgets) :
    changed.Valid where
  id_notBlank := by
    rw [hid]
    exact h.id_notBlank
  pages_nonempty := hpages
  ordinals := horder
  pageIds_notBlank := by
    intro page hpage
    obtain ⟨other, hother, heq⟩ :=
      List.mem_map.mp (hids.subset (List.mem_map_of_mem (f := Page.id) hpage))
    rw [← heq]
    exact h.pageIds_notBlank other hother
  pageIds_distinct := nodup_of_subperm hids h.pageIds_distinct
  widgetIds_distinct := by
    obtain ⟨between, hperm, hsublist⟩ := hwidgets
    exact nodup_of_subperm ⟨_, hperm.map _, hsublist.map _⟩ h.widgetIds_distinct
  widgets_sound := by
    intro widget hwidget
    exact h.widgets_sound widget (hwidgets.subset hwidget)

/-- The identifiers and widgets of pages do not depend on their ordinals. -/
theorem IsRenumbering.map_eq
    {pages : List Page}
    (h : device.IsRenumbering pages changed) :
    changed.pages.map Page.id = pages.map Page.id ∧
      changed.widgets = pages.flatMap Page.widgets := by
  have hids : ∀ pages : List Page, pages.map Page.id = (pages.map Page.content).map Page.id := by
    intro pages
    rw [List.map_map]
    rfl
  have hwidgets : ∀ pages : List Page,
      pages.flatMap Page.widgets = (pages.map Page.content).flatMap Page.widgets := by
    intro pages
    rw [List.flatMap_map]
    rfl
  constructor
  · rw [hids, h.content_eq, ← hids]
  · rw [widgets, hwidgets, h.content_eq, ← hwidgets]

/-- Renumbering some pages of a valid device, in any order, leaves it valid. -/
theorem Valid.renumbering
    {pages : List Page}
    (h : device.Valid)
    (hrenumbering : device.IsRenumbering pages changed)
    (hpages : pages.Subperm device.pages)
    (hne : pages ≠ []) :
    changed.Valid := by
  have hfits : pages.length ≤ UInt32.size :=
    Nat.le_trans hpages.length_le (InOrder.length_le h.ordinals)
  obtain ⟨hids, hwidgets⟩ := hrenumbering.map_eq
  obtain ⟨between, hperm, hsublist⟩ := hpages
  refine h.of_subperm hrenumbering.id_eq ?_ (hrenumbering.inOrder hfits) ?_ ?_
  · intro hnil
    rw [hnil, List.map_nil, eq_comm, List.map_eq_nil_iff] at hids
    exact hne hids
  · rw [hids]
    exact ⟨_, hperm.map _, hsublist.map _⟩
  · rw [hwidgets]
    exact ⟨_, hperm.flatMap_right _, hsublist.flatMap _⟩

theorem Valid.movePage
    {source target : Nat}
    (h : device.Valid)
    (hmove : device.movePage source target = (.ok (), changed)) :
    changed.Valid := by
  obtain ⟨moved, pages, hsource, htarget, hothers, hrenumbering⟩ := isRenumbering_of_movePage hmove
  obtain ⟨hsourceLt, hmovedSource⟩ := List.getElem?_eq_some_iff.mp hsource
  obtain ⟨htargetLt, hmovedTarget⟩ := List.getElem?_eq_some_iff.mp htarget
  -- both lists are the moved page and the other ones
  have hpages : pages.Perm (moved :: pages.eraseIdx target) := by
    have hperm := List.getElem_cons_eraseIdx_perm htargetLt
    rw [hmovedTarget] at hperm
    exact hperm.symm
  have hdevice : (moved :: device.pages.eraseIdx source).Perm device.pages := by
    have hperm := List.getElem_cons_eraseIdx_perm hsourceLt
    rwa [hmovedSource] at hperm
  rw [hothers] at hpages
  refine h.renumbering hrenumbering (hpages.trans hdevice).subperm ?_
  rintro rfl
  simp at htargetLt

theorem Valid.removePage
    {ordinal : UInt32} {removed : Page}
    (h : device.Valid)
    (hleft : 1 < device.pages.length)
    (hremove : device.removePage ordinal = (some removed, changed)) :
    changed.Valid := by
  obtain ⟨before, after, hpages, -, -, hrenumbering⟩ := isRenumbering_of_removePage hremove
  rw [hpages, List.length_append, List.length_cons] at hleft
  refine h.renumbering hrenumbering ?_ ?_
  · rw [hpages]
    exact ((List.Sublist.refl before).append (List.sublist_cons_self removed after)).subperm
  · rw [← List.length_pos_iff, List.length_append]
    omega

theorem Valid.revisePage
    (h : device.Valid)
    (ordinal : UInt32)
    (revision : PageRevision) :
    (device.modifyPage ordinal revision.apply).Valid := by
  have hreduces : ∀ page ∈ device.pages, page.Reduces (revision.apply page) := by
    intro page hpage
    refine PageRevision.reduces ?_ revision
    intro widget hwidget
    exact h.widgets_sound widget (List.mem_flatMap.mpr ⟨page, hpage, hwidget⟩)
  have hpages := forall₂_modifyFirst hreduces ordinal
  obtain ⟨hids, hordinals, hwidgets⟩ := map_eq_of_forall₂_reduces hpages
  have hsubperm : ((device.modifyPage ordinal revision.apply).pages.map Page.id).Subperm
      (device.pages.map Page.id) := by
    change ((modifyFirst ordinal revision.apply device.pages).map Page.id).Subperm _
    rw [hids]
  refine h.of_subperm rfl ?_ ?_ hsubperm hwidgets.subperm
  · intro hnil
    have hlength := hpages.length_eq
    change modifyFirst ordinal revision.apply device.pages = [] at hnil
    rw [hnil, List.length_nil] at hlength
    exact h.pages_nonempty (List.length_eq_zero_iff.mp hlength)
  · intro k page hpage
    change (modifyFirst ordinal revision.apply device.pages)[k]? = some page at hpage
    have hordinal := congrArg (fun ordinals => ordinals[k]?) hordinals
    simp only [List.getElem?_map, hpage, Option.map_some] at hordinal
    obtain ⟨old, hold, heq⟩ := Option.map_eq_some_iff.mp hordinal.symm
    rw [← heq]
    exact h.ordinals k old hold

/-- **A permitted change keeps a device valid.** -/
theorem Valid.revise
    {revision : Revision}
    (h : device.Valid)
    (hpermits : device.Permits revision) :
    (device.revise revision).Valid := by
  cases revision with
  | movePage source target =>
      cases hanswer : (device.movePage source target).1 with
      | ok => exact h.movePage (Prod.ext hanswer rfl)
      | error error =>
          have hrefused : device.Refuses (.movePage source target) := ⟨error, hanswer⟩
          rwa [Device.revise, edit_of_refuses hrefused]
  | removePage ordinal =>
      cases hanswer : (device.removePage ordinal).1 with
      | some removed => exact h.removePage hpermits (Prod.ext hanswer rfl)
      | none =>
          have hrefused : device.Refuses (.removePage ordinal) := hanswer
          rwa [Device.revise, edit_of_refuses hrefused]
  | renumber =>
      exact h.renumbering (isRenumbering_renumber device device.pages) (List.Subperm.refl _)
        h.pages_nonempty
  | revisePage ordinal revision =>
      exact h.revisePage ordinal revision
  | rename name =>
      exact h.of_subperm rfl h.pages_nonempty h.ordinals (List.Subperm.refl _)
        (List.Subperm.refl _)

end Steps

section Runs

/-- **No list of permitted changes makes a valid device invalid.** -/
theorem valid_revisions
    {device : Device} {history : List Revision}
    (h : device.Valid)
    (hpermits : device.PermitsAll history) :
    (device.revisions history).Valid := by
  induction history generalizing device with
  | nil =>
      exact h
  | cons revision rest ih =>
      exact ih (h.revise hpermits.1) hpermits.2

/-- **A page that was added keeps a device valid exactly when the page fits in.** -/
theorem valid_addPage_iff
    {device changed : Device} {page : Page}
    (h : device.Valid)
    (hadd : device.addPage page = (.ok (), changed)) :
    changed.Valid
      ↔
    Text.isBlankText page.id = false ∧
      page.id ∉ device.pages.map Page.id ∧
      (∀ widget ∈ page.widgets, widget.Sound) ∧
      (page.widgets.map Widget.id).Nodup ∧
      ∀ id ∈ page.widgets.map Widget.id, id ∉ device.widgets.map Widget.id := by
  have horder : changed.InOrder := InOrder.addPage h.ordinals hadd
  obtain ⟨-, rfl⟩ := addPage_eq_ok_iff.mp hadd
  have hwidgets : widgets { device with pages := device.pages ++ [page] } =
      device.widgets ++ page.widgets := by
    simp [widgets]
  constructor
  · intro hvalid
    have hpageIds := hvalid.pageIds_distinct
    have hwidgetIds := hvalid.widgetIds_distinct
    rw [List.map_append, List.nodup_append] at hpageIds
    rw [hwidgets, List.map_append, List.nodup_append] at hwidgetIds
    refine ⟨hvalid.pageIds_notBlank page (by simp), ?_, ?_, hwidgetIds.2.1, ?_⟩
    · intro hmem
      exact hpageIds.2.2 page.id hmem page.id (by simp) rfl
    · intro widget hwidget
      exact hvalid.widgets_sound widget (by rw [hwidgets]; exact List.mem_append_right _ hwidget)
    · intro id hid hmem
      exact hwidgetIds.2.2 id hmem id hid rfl
  · rintro ⟨hblank, hpageId, hsound, hdistinct, hnew⟩
    refine
      { id_notBlank := h.id_notBlank
        pages_nonempty := by simp
        ordinals := horder
        pageIds_notBlank := ?_
        pageIds_distinct := ?_
        widgetIds_distinct := ?_
        widgets_sound := ?_ }
    · rw [List.forall_mem_append, List.forall_mem_singleton]
      exact ⟨h.pageIds_notBlank, hblank⟩
    · rw [List.map_append, List.nodup_append]
      refine ⟨h.pageIds_distinct, List.nodup_singleton _, ?_⟩
      intro other hother id hid heq
      rw [heq, List.mem_singleton.mp hid] at hother
      exact hpageId hother
    · rw [hwidgets, List.map_append, List.nodup_append]
      refine ⟨h.widgetIds_distinct, hdistinct, ?_⟩
      intro other hother id hid heq
      rw [heq] at hother
      exact hnew id hid hother
    · rw [hwidgets, List.forall_mem_append]
      exact ⟨h.widgets_sound, hsound⟩

/-- **Editing a valid device.**  It is valid, and has a snippet, after every list of permitted
changes; and after a page was added it is valid exactly when the page has an identifier of its own
and sound widgets with identifiers of their own. -/
theorem valid_edited :
    (∀ (device : Device) history, device.validate.isValid = true → device.PermitsAll history →
      (device.revisions history).validate.isValid = true ∧
        ∃ snippet, Snippet.generate (device.revisions history) = .ok snippet) ∧
    ∀ (device changed : Device) page, device.validate.isValid = true →
      device.addPage page = (.ok (), changed) →
      (changed.validate.isValid = true
        ↔
      Text.isBlankText page.id = false ∧
        page.id ∉ device.pages.map Page.id ∧
        (∀ widget ∈ page.widgets, widget.problems = []) ∧
        (page.widgets.map Widget.id).Nodup ∧
        ∀ id ∈ page.widgets.map Widget.id, id ∉ device.widgets.map Widget.id) := by
  constructor
  · intro device history hvalid hpermits
    have hrevised := (isValid_iff_valid _).mpr
      (valid_revisions ((isValid_iff_valid device).mp hvalid) hpermits)
    exact ⟨hrevised, _, if_pos hrevised⟩
  · intro device changed page hvalid hadd
    rw [isValid_iff_valid, valid_addPage_iff ((isValid_iff_valid device).mp hvalid) hadd]
    simp only [Widget.problems_eq_nil_iff_sound]

/-- A device with three pages. -/
def threePages : Device where
  id := "panel"
  name := "Hall"
  pages := [
    { id := "a", title := "Inside", ordinal := 0
      widgets := [
        { id := "clock", kind := .clock, x := 0, y := 0, width := 800, height := 480 },
        { id := "dial", kind := .gauge, dataPoint := some "sensor.humidity"
          x := 700, y := 400, width := 100, height := 80 }] },
    { id := "b", title := "Outside", ordinal := 1
      widgets := [{ id := "label", kind := .text, x := 10, y := 10, width := 1, height := 1 }] },
    { id := "c", title := "", ordinal := 2 }]

/-- Changes of every sort, one of which cannot be done. -/
def tidyings : List Revision :=
  [.movePage 2 0, .revisePage 1 (.removeWidget "dial"), .revisePage 2 .clampWidgets,
    .revisePage 1 (.clampWidget 0), .revisePage 0 (.retitle "Cellar"), .rename "Attic",
    .removePage 0, .movePage 5 0, .removePage 1, .renumber]

/-- A page for the end of that device. -/
def fourthPage (widgets : List Widget) : Page where
  id := "d"
  title := ""
  ordinal := 3
  widgets := widgets

/-- A device after changes of every sort, after a page that fits in, and after one with a widget
that the device has already. -/
theorem valid_edited_threePages :
    (threePages.validate.isValid = true ∧ threePages.PermitsAll tidyings ∧
      (threePages.revisions tidyings).validate.isValid = true) ∧
    (∃ changed, threePages.addPage (fourthPage []) = (.ok (), changed) ∧
      changed.validate.isValid = true) ∧
    ∃ changed, threePages.addPage (fourthPage (threePages.widgets.take 1)) = (.ok (), changed) ∧
      changed.validate.isValid = false := by
  obtain ⟨hrevisions, haddPage⟩ := valid_edited
  have hvalid : threePages.validate.isValid = true := by decide
  have hpermits : threePages.PermitsAll tidyings := by decide
  obtain ⟨longer, hlonger⟩ : ∃ longer, threePages.addPage (fourthPage []) = (.ok (), longer) :=
    ⟨_, rfl⟩
  obtain ⟨clashing, hclashing⟩ : ∃ clashing,
      threePages.addPage (fourthPage (threePages.widgets.take 1)) = (.ok (), clashing) := ⟨_, rfl⟩
  refine ⟨⟨hvalid, hpermits, (hrevisions _ _ hvalid hpermits).1⟩, ⟨longer, hlonger, ?_⟩,
    clashing, hclashing, ?_⟩
  · rw [haddPage _ _ _ hvalid hlonger]
    decide
  · rw [← Bool.not_eq_true, haddPage _ _ _ hvalid hclashing]
    decide

end Runs

end Device
end EpaperLayout
