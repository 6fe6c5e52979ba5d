import EpaperLayout.Layout.Device
import Mathlib.Tactic

/-!
# Ordinals under editing

The ordinal of a page is meant to be its position in the device.  Every operation
that adds, moves or removes a page keeps this up by itself, so it holds after any
history of edits, and an operation that cannot be done changes nothing.

**Input.**  A device and a list of `Edit`s.  A page is changed in place only by a
`PageChange`, which leaves its ordinal alone.

**Step.**
* `IsRenumbering`: a device differs from another one by its pages, which are given
  up to their ordinals, and these are the positions.
* `isRenumbering_of_removePage`, `isRenumbering_of_movePage`,
  `isRenumbering_renumber`: this is how the pages are rearranged, whatever the
  ordinals were before.
* `InOrder.edit`: an edit keeps the ordinals in order.

**Run.**
* `inOrder_edits`: so does every list of edits.
* `ordinals_edits`: the account of all edits.

**Limit.**  Ordinals have 32 bits.  A device that grew by `addPage` never has more
pages than there are ordinals; the pages of a larger one get their positions
modulo `2 ^ 32`.
-/

namespace EpaperLayout

/-- A change of a page that does not assign its ordinal. -/
structure PageChange where
  apply : Page → Page
  ordinal_apply : ∀ page, (apply page).ordinal = page.ordinal

/-- An edit of the pages of a device. -/
inductive Edit where
  | addPage (page : Page)
  | removePage (ordinal : UInt32)
  | movePage (source target : Nat)
  | renumber
  /-- The first page with the ordinal is changed in place. -/
  | changePage (ordinal : UInt32) (change : PageChange)

/-- A page apart from its ordinal. -/
def Page.content (page : Page) : Page :=
  { page with ordinal := 0 }

namespace Device

/-- Whether an edit is answered with an error or with nothing. -/
def Refuses (device : Device) : Edit → Prop
  | .addPage page => ∃ error, (device.addPage page).1 = .error error
  | .removePage ordinal => (device.removePage ordinal).1 = none
  | .movePage source target => ∃ error, (device.movePage source target).1 = .error error
  | .renumber => False
  | .changePage ordinal _ => device.page? ordinal = none

/-- The device that an edit leaves, whatever its answer is. -/
def edit (device : Device) : Edit → Device
  | .addPage page => (device.addPage page).2
  | .removePage ordinal => (device.removePage ordinal).2
  | .movePage source target => (device.movePage source target).2
  | .renumber => device.renumber
  | .changePage ordinal change => device.modifyPage ordinal change.apply

/-- The device after all edits of a list, one after the other. -/
def edits (device : Device) (history : List Edit) : Device :=
  history.foldl edit device

/-- The ordinal of every page is its position. -/
def InOrder (device : Device) : Prop :=
  ∀ (k : Nat) (page : Page), device.pages[k]? = some page → page.ordinal.toNat = k

/-- The device `changed` is `device` with the given pages, whose ordinals are their positions. -/
structure IsRenumbering (device : Device) (pages : List Page) (changed : Device) : Prop where
  id_eq : changed.id = device.id
  name_eq : changed.name = device.name
  content_eq : changed.pages.map Page.content = pages.map Page.content
  ordinal_eq : ∀ (k : Nat) (page : Page), changed.pages[k]? = some page →
    page.ordinal = UInt32.ofNat k
  /-- As long as there are ordinals for all pages, none of them wraps around. -/
  inOrder : pages.length ≤ UInt32.size → changed.InOrder

section Renumbering

theorem getElem?_renumberFrom (start : Nat) (pages : List Page) (k : Nat) :
    (renumberFrom start pages)[k]? =
      pages[k]?.map fun page => { page with ordinal := UInt32.ofNat (start + k) } := by
  induction pages generalizing start k with
  | nil =>
      rfl
  | cons page rest ih =>
      cases k with
      | zero =>
          rfl
      | succ k =>
          rw [renumberFrom, List.getElem?_cons_succ, List.getElem?_cons_succ, ih,
            Nat.add_right_comm, Nat.add_assoc]

theorem map_content_renumberFrom (start : Nat) (pages : List Page) :
    (renumberFrom start pages).map Page.content = pages.map Page.content := by
  induction pages generalizing start with
  | nil =>
      rfl
  | cons page rest ih =>
      rw [renumberFrom, List.map_cons, List.map_cons, ih]
      rfl

/-- **Renumbering changes nothing but ordinals, and puts them right.** -/
theorem isRenumbering_renumber (device : Device) (pages : List Page) :
    device.IsRenumbering pages (renumber { device with pages }) := by
  have hordinal : ∀ (k : Nat) (page : Page),
      (renumber { device with pages }).pages[k]? = some page →
      k < pages.length ∧ page.ordinal = UInt32.ofNat k := by
    intro k page hpage
    change (renumberFrom 0 pages)[k]? = some page at hpage
    rw [getElem?_renumberFrom, Nat.zero_add, Option.map_eq_some_iff] at hpage
    obtain ⟨old, hold, rfl⟩ := hpage
    exact ⟨(List.getElem?_eq_some_iff.mp hold).1, rfl⟩
  refine ⟨rfl, rfl, map_content_renumberFrom 0 pages, ?_, ?_⟩
  · intro k page hpage
    exact (hordinal k page hpage).2
  · intro hfits k page hpage
    obtain ⟨hk, hofNat⟩ := hordinal k page hpage
    rw [hofNat, UInt32.toNat_ofNat_of_lt' (Nat.lt_of_lt_of_le hk hfits)]

end Renumbering

section Operations

variable {device changed : Device}

/-- **Removing a page takes out the first one with the ordinal.** -/
theorem isRenumbering_of_removePage
    {ordinal : UInt32} {removed : Page}
    (h : device.removePage ordinal = (some removed, changed)) :
    ∃ before after, device.pages = before ++ removed :: after ∧
      removed.ordinal = ordinal ∧ (∀ page ∈ before, page.ordinal ≠ ordinal) ∧
      device.IsRenumbering (before ++ after) changed := by
  rw [removePage, page?] at h
  cases hfind : device.pages.find? fun page => page.ordinal == ordinal with
  | none =>
      rw [hfind] at h
      cases h
  | some found =>
      rw [hfind] at h
      cases h
      obtain ⟨hordinal, before, after, hpages, hbefore⟩ := List.find?_eq_some_iff_append.mp hfind
      have hskip : ∀ page ∈ before, ¬(page.ordinal == ordinal) = true := by
        simpa using hbefore
      have herase : device.pages.eraseP (fun page => page.ordinal == ordinal) =
          before ++ after := by
        rw [hpages, List.eraseP_append_right _ hskip]
        exact congrArg (before ++ ·) (List.eraseP_cons_of_pos hordinal)
      refine ⟨before, after, hpages, beq_iff_eq.mp hordinal, ?_, ?_⟩
      · intro page hpage heq
        exact hskip page hpage (beq_iff_eq.mpr heq)
      · rw [herase]
        exact isRenumbering_renumber device (before ++ after)

/-- **Moving a page takes it out at one position and puts it in at the other.** -/
theorem isRenumbering_of_movePage
    {source target : Nat}
    (h : device.movePage source target = (.ok (), changed)) :
    ∃ moved pages, device.pages[source]? = some moved ∧ pages[target]? = some moved ∧
      pages.eraseIdx target = device.pages.eraseIdx source ∧
      device.IsRenumbering pages changed := by
  rw [movePage] at h
  cases hmoved : device.pages[source]? with
  | none =>
      rw [hmoved] at h
      cases h
  | some moved =>
      rw [hmoved] at h
      simp only at h
      split at h
      · next htarget =>
        cases h
        have hsource := (List.getElem?_eq_some_iff.mp hmoved).1
        have hle : target ≤ (device.pages.eraseIdx source).length := by
          rw [List.length_eraseIdx_of_lt hsource]
          omega
        refine ⟨moved, (device.pages.eraseIdx source).insertIdx target moved, rfl, ?_, ?_,
          isRenumbering_renumber device _⟩
        · rw [List.getElem?_insertIdx_self, if_pos hle]
        · exact List.eraseIdx_insertIdx_self _
      · cases h

theorem addPage_eq_ok_iff {page : Page} :
    device.addPage page = (.ok (), changed) ↔
      page.ordinal.toNat = device.pages.length ∧
        changed = { device with pages := device.pages ++ [page] } := by
  rw [addPage]
  split
  · next h => simp [h, eq_comm]
  · next h => simp [h]

/-- Changing a page in place keeps all ordinals. -/
theorem map_ordinal_modifyFirst (ordinal : UInt32) (change : PageChange) (pages : List Page) :
    (modifyFirst ordinal change.apply pages).map Page.ordinal = pages.map Page.ordinal := by
  induction pages with
  | nil =>
      rfl
  | cons page rest ih =>
      rw [modifyFirst]
      split
      · rw [List.map_cons, List.map_cons, change.ordinal_apply]
      · rw [List.map_cons, List.map_cons, ih]

/-- Without a page of the ordinal there is nothing to change. -/
theorem modifyFirst_eq_self
    {ordinal : UInt32} {pages : List Page}
    (h : ∀ page ∈ pages, page.ordinal ≠ ordinal)
    (change : Page → Page) :
    modifyFirst ordinal change pages = pages := by
  induction pages with
  | nil =>
      rfl
  | cons page rest ih =>
      rw [List.forall_mem_cons] at h
      rw [modifyFirst, if_neg h.1, ih h.2]

end Operations

section Steps

variable {device : Device}

/-- **An edit that is refused changes nothing.** -/
theorem edit_of_refuses
    {change : Edit}
    (h : device.Refuses change) :
    device.edit change = device := by
  cases change with
  | addPage page =>
      obtain ⟨error, herror⟩ := h
      rw [addPage] at herror
      rw [edit, addPage]
      split at herror
      · cases herror
      · next hordinal => rw [if_neg hordinal]
  | removePage ordinal =>
      have hnone : (device.removePage ordinal).1 = none := h
      rw [removePage] at hnone
      rw [edit, removePage]
      cases hpage : device.page? ordinal with
      | none => rfl
      | some page =>
          rw [hpage] at hnone
          cases hnone
  | movePage source target =>
      obtain ⟨error, herror⟩ := h
      rw [movePage] at herror
      rw [edit, movePage]
      cases hsource : device.pages[source]? with
      | none => rfl
      | some moved =>
          rw [hsource] at herror
          dsimp only at herror ⊢
          split at herror
          · cases herror
          · next htarget => rw [if_neg htarget]
  | renumber =>
      exact h.elim
  | changePage ordinal change =>
      have hnone : device.pages.find? (fun page => page.ordinal == ordinal) = none := h
      rw [List.find?_eq_none] at hnone
      rw [edit, modifyPage, modifyFirst_eq_self]
      intro page hpage heq
      exact hnone page hpage (beq_iff_eq.mpr heq)

/-- A device with its pages in order has an ordinal for each of them. -/
theorem InOrder.length_le (h : device.InOrder) : device.pages.length ≤ UInt32.size := by
  cases hlength : device.pages.length with
  | zero =>
      exact Nat.zero_le _
  | succ last =>
      obtain ⟨page, hpage⟩ : ∃ page, device.pages[last]? = some page :=
        ⟨_, List.getElem?_eq_getElem (by omega)⟩
      have hlt := page.ordinal.toNat_lt_size
      rw [h last page hpage] at hlt
      exact hlt

theorem InOrder.addPage
    {page : Page} {changed : Device}
    (h : device.InOrder)
    (hadd : device.addPage page = (.ok (), changed)) :
    changed.InOrder := by
  obtain ⟨hordinal, rfl⟩ := addPage_eq_ok_iff.mp hadd
  intro k other hother
  change (device.pages ++ [page])[k]? = some other at hother
  rcases Nat.lt_or_ge k device.pages.length with hk | hk
  · rw [List.getElem?_append_left hk] at hother
    exact h k other hother
  · rw [List.getElem?_append_right hk, List.getElem?_singleton] at hother
    split at hother
    · next hzero =>
      rw [← Option.some.inj hother]
      omega
    · cases hother

theorem InOrder.modifyPage
    (h : device.InOrder)
    (ordinal : UInt32)
    (change : PageChange) :
    (device.modifyPage ordinal change.apply).InOrder := by
  intro k page hpage
  have hmap := congrArg (fun ordinals => ordinals[k]?)
    (map_ordinal_modifyFirst ordinal change device.pages)
  simp only [List.getElem?_map] at hmap
  change (modifyFirst ordinal change.apply device.pages)[k]? = some page at hpage
  rw [hpage, Option.map_some, eq_comm, Option.map_eq_some_iff] at hmap
  obtain ⟨old, hold, heq⟩ := hmap
  rw [← heq]
  exact h k old hold

/-- **Every edit keeps the ordinals in order.** -/
theorem InOrder.edit
    (h : device.InOrder)
    (change : Edit) :
    (device.edit change).InOrder := by
  have hfits := h.length_le
  cases change with
  | addPage page =>
      cases hanswer : (device.addPage page).1 with
      | ok => exact h.addPage (Prod.ext hanswer rfl)
      | error error =>
          have hrefused : device.Refuses (.addPage page) := ⟨error, hanswer⟩
          rwa [edit_of_refuses hrefused]
  | removePage ordinal =>
      cases hanswer : (device.removePage ordinal).1 with
      | none =>
          have hrefused : device.Refuses (.removePage ordinal) := hanswer
          rwa [edit_of_refuses hrefused]
      | some removed =>
          obtain ⟨before, after, hpages, -, -, hrenumbering⟩ :=
            isRenumbering_of_removePage (Prod.ext hanswer rfl)
          refine hrenumbering.inOrder (Nat.le_trans ?_ hfits)
          rw [hpages, List.length_append, List.length_append, List.length_cons]
          omega
  | movePage source target =>
      cases hanswer : (device.movePage source target).1 with
      | error error =>
          have hrefused : device.Refuses (.movePage source target) := ⟨error, hanswer⟩
          rwa [edit_of_refuses hrefused]
      | ok =>
          obtain ⟨moved, pages, hsource, htarget, hothers, hrenumbering⟩ :=
            isRenumbering_of_movePage (Prod.ext hanswer rfl)
          refine hrenumbering.inOrder (Nat.le_trans (Nat.le_of_eq ?_) hfits)
          have hlength := congrArg List.length hothers
          have hsourceLt := (List.getElem?_eq_some_iff.mp hsource).1
          have htargetLt := (List.getElem?_eq_some_iff.mp htarget).1
          rw [List.length_eraseIdx_of_lt hsourceLt, List.length_eraseIdx_of_lt htargetLt] at hlength
          omega
  | renumber =>
      exact (isRenumbering_renumber device device.pages).inOrder hfits
  | changePage ordinal change =>
      exact h.modifyPage ordinal change

/-- In order, the page with an ordinal is the one at that position. -/
theorem InOrder.page?_eq
    (h : device.InOrder)
    (ordinal : UInt32) :
    device.page? ordinal = device.pages[ordinal.toNat]? := by
  have hposition : ∀ page ∈ device.pages, page.ordinal = ordinal →
      device.pages[ordinal.toNat]? = some page := by
    intro page hpage heq
    obtain ⟨k, hk⟩ := List.getElem?_of_mem hpage
    rw [← heq, h k page hk]
    exact hk
  rw [page?]
  cases hfind : device.pages.find? fun page => page.ordinal == ordinal with
  | some page =>
      have hordinal := List.find?_some hfind
      exact (hposition page (List.mem_of_find?_eq_some hfind) (beq_iff_eq.mp hordinal)).symm
  | none =>
      cases hget : device.pages[ordinal.toNat]? with
      | none =>
          rfl
      | some page =>
          have heq : page.ordinal = ordinal := UInt32.toNat_inj.mp (h _ page hget)
          exact absurd (beq_iff_eq.mpr heq)
            (List.find?_eq_none.mp hfind page (List.mem_of_getElem? hget))

end Steps

section Runs

theorem inOrder_of_create
    {id name : String} {device : Device}
    (h : create id name = .ok device) :
    device.InOrder := by
  rw [create] at h
  split at h
  · cases h
  · obtain rfl := Except.ok.inj h
    intro k page hpage
    simp at hpage

/-- **No list of edits puts ordinals out of order.** -/
theorem inOrder_edits
    {device : Device}
    (h : device.InOrder)
    (history : List Edit) :
    (device.edits history).InOrder := by
  induction history generalizing device with
  | nil =>
      exact h
  | cons change rest ih =>
      exact ih (h.edit change)

/-- **Ordinals under editing.**  They are positions after every history of a new device, an edit
that is refused changes nothing, and whatever they were before, removing, moving and renumbering
puts them right and rearranges the pages as asked. -/
theorem ordinals_edits :
    (∀ id name start, create id name = .ok start → ∀ history : List Edit,
      (start.edits history).InOrder ∧
      ∀ ordinal, (start.edits history).page? ordinal =
          (start.edits history).pages[ordinal.toNat]? ∧
        ((start.edits history).page? ordinal = none ↔
          (start.edits history).pages.length ≤ ordinal.toNat)) ∧
    (∀ (device : Device) change, device.Refuses change → device.edit change = device) ∧
    (∀ (device changed : Device) ordinal removed,
      device.removePage ordinal = (some removed, changed) →
      ∃ before after, device.pages = before ++ removed :: after ∧ removed.ordinal = ordinal ∧
        (∀ page ∈ before, page.ordinal ≠ ordinal) ∧
        device.IsRenumbering (before ++ after) changed) ∧
    (∀ (device changed : Device) source target,
      device.movePage source target = (.ok (), changed) →
      ∃ moved pages, device.pages[source]? = some moved ∧ pages[target]? = some moved ∧
        pages.eraseIdx target = device.pages.eraseIdx source ∧
        device.IsRenumbering pages changed) ∧
    ∀ device : Device, device.IsRenumbering device.pages device.renumber := by
  refine ⟨?_, ?_, ?_, ?_, ?_⟩
  · intro id name start hstart history
    have horder := inOrder_edits (inOrder_of_create hstart) history
    refine ⟨horder, ?_⟩
    intro ordinal
    refine ⟨horder.page?_eq ordinal, ?_⟩
    rw [horder.page?_eq ordinal, List.getElem?_eq_none_iff]
  · intro device change hrefused
    exact edit_of_refuses hrefused
  · intro device changed ordinal removed hremove
    exact isRenumbering_of_removePage hremove
  · intro device changed source target hmove
    exact isRenumbering_of_movePage hmove
  · intro device
    exact isRenumbering_renumber device device.pages

/-- A device whose pages share an ordinal that is the position of neither. -/
def twinPages : Device where
  id := "panel"
  name := "Hall"
  pages := [{ id := "a", title := "Inside", ordinal := 7 },
    { id := "b", title := "Outside", ordinal := 7 }]

/-- The account of all edits for a device that has grown, and for one that is out of order. -/
theorem ordinals_edits_twinPages :
    (create "panel" "Hall" = .ok { id := "panel", name := "Hall" } ∧
      (Device.edits { id := "panel", name := "Hall" }
        [.addPage { id := "a", title := "Inside", ordinal := 0 },
          .addPage { id := "b", title := "Outside", ordinal := 1 },
          .movePage 1 0, .movePage 0 2, .removePage 0]).InOrder) ∧
    (twinPages.Refuses (.removePage 0) ∧ twinPages.edit (.removePage 0) = twinPages) ∧
    (∃ removed changed, twinPages.removePage 7 = (some removed, changed) ∧
      changed.pages.map Page.content = twinPages.pages.tail.map Page.content) ∧
    ∃ changed, twinPages.movePage 1 0 = (.ok (), changed) ∧
      twinPages.IsRenumbering twinPages.pages.reverse changed := by
  obtain ⟨hhistory, hrefused, hremove, hmove, -⟩ := ordinals_edits
  have hcreate : create "panel" "Hall" = .ok { id := "panel", name := "Hall" } := by
    decide
  have hnone : twinPages.Refuses (.removePage 0) := by
    change (twinPages.removePage 0).1 = none
    decide
  obtain ⟨removed, changed, hremoved⟩ : ∃ removed changed,
      twinPages.removePage 7 = (some removed, changed) := ⟨_, _, rfl⟩
  obtain ⟨arranged, harranged⟩ : ∃ arranged, twinPages.movePage 1 0 = (.ok (), arranged) :=
    ⟨_, rfl⟩
  refine ⟨⟨hcreate, (hhistory _ _ _ hcreate _).1⟩, ⟨hnone, hrefused _ _ hnone⟩,
    ⟨removed, changed, hremoved, ?_⟩, arranged, harranged, ?_⟩
  · obtain ⟨before, after, hpages, hordinal, hbefore, hrenumbering⟩ :=
      hremove _ _ _ _ hremoved
    cases before with
    | nil =>
        rw [hrenumbering.content_eq, hpages]
        rfl
    | cons first rest =>
        have hfirst := hbefore first List.mem_cons_self
        rw [← (List.cons.inj hpages).1] at hfirst
        exact absurd rfl hfirst
  · obtain ⟨moved, pages, hsource, htarget, hothers, hrenumbering⟩ := hmove _ _ _ _ harranged
    cases pages with
    | nil =>
        cases htarget
    | cons first rest =>
        have hreverse : twinPages.pages.reverse = first :: rest := by
          rw [List.getElem?_cons_zero] at htarget
          rw [List.eraseIdx_zero, List.tail_cons] at hothers
          rw [hothers, Option.some.inj htarget, ← Option.some.inj hsource]
          rfl
        rw [hreverse]
        exact hrenumbering

end Runs

end Device
end EpaperLayout
