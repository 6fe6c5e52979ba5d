import EpaperLayout.Proofs.Layout.ValidEdits

/-!
# Clamping mends the geometry

Clamping changes where a widget is and how large it is, and nothing else.  All
numbers are unsigned and of 32 bits, and neither the edges of a widget nor the
room that is left of the canvas may leave that range.

**Argument.**  A clamped size lies between one pixel and the whole extent, so the
room that it leaves is a number again, and a clamped start is within this room.
Hence a clamped widget is on the canvas.  Of the flaws of a widget only those of
size and bounds look at the geometry, and they are there exactly if the widget is
not on the canvas.

**Results.**
* `onCanvas_clamp`: a clamped widget is on the canvas.
* `clamp_eq_iff_onCanvas`: only widgets on the canvas stay as they are.
* `problems_clamp`: clamping mends the problems of the geometry and no others.
-/

namespace EpaperLayout

/-- Whether a problem is about the size or the place of a widget. -/
def ProblemKind.isGeometric : ProblemKind → Bool
  | .zeroSize | .outOfBounds => true
  | _ => false

namespace Widget

/-- The flaws of the size and of the place. -/
def geometryFlaws (widget : Widget) : List Flaw :=
  widget.sizeFlaws ++ widget.boundsFlaws

/-- The flaws of what a widget shows, and how. -/
def contentFlaws (widget : Widget) : List Flaw :=
  widget.dataPointFlaws ++ widget.styleKeyFlaws ++ widget.fontSizeFlaws ++ widget.gaugeFlaws

section Numbers

/-- A clamped size is the nearest one within the extent, in unbounded numbers. -/
theorem toNat_clampSize
    {extent : UInt32}
    (hextent : 1 ≤ extent.toNat)
    (size : UInt32) :
    (clampSize size extent).toNat = max 1 (min size.toNat extent.toNat) := by
  have hone : (1 : UInt32).toNat = 1 := rfl
  unfold clampSize
  split
  · next hsmall =>
    rw [UInt32.lt_iff_toNat_lt, hone] at hsmall
    omega
  · next hlarge =>
    rw [UInt32.lt_iff_toNat_lt, hone] at hlarge
    split
    · next hover =>
      rw [UInt32.lt_iff_toNat_lt] at hover
      omega
    · next hwithin =>
      rw [UInt32.lt_iff_toNat_lt] at hwithin
      omega

/-- A clamped start is the nearest one within the room that the size leaves. -/
theorem toNat_clampStart
    {size extent : UInt32}
    (hsize : size ≤ extent)
    (start : UInt32) :
    (clampStart start size extent).toNat = min start.toNat (extent.toNat - size.toNat) := by
  have hroom : (extent - size).toNat = extent.toNat - size.toNat :=
    UInt32.toNat_sub_of_le _ _ hsize
  unfold clampStart
  split
  · next hwithin =>
    rw [UInt32.le_iff_toNat_le, hroom] at hwithin
    omega
  · next hover =>
    rw [UInt32.le_iff_toNat_le, hroom] at hover
    omega

/-- A clamped size is not larger than the extent, so that it can be subtracted from it. -/
theorem clampSize_le
    {extent : UInt32}
    (hextent : 1 ≤ extent.toNat)
    (size : UInt32) :
    clampSize size extent ≤ extent := by
  rw [UInt32.le_iff_toNat_le, toNat_clampSize hextent]
  omega

/-- A clamped stretch is not empty and lies within the extent. -/
theorem clampStart_add_clampSize
    {extent : UInt32}
    (hextent : 1 ≤ extent.toNat)
    (start size : UInt32) :
    1 ≤ (clampSize size extent).toNat ∧
      (clampStart start (clampSize size extent) extent).toNat + (clampSize size extent).toNat ≤
        extent.toNat := by
  rw [toNat_clampStart (clampSize_le hextent size), toNat_clampSize hextent]
  omega

end Numbers

section Canvas

/-- **A clamped widget is on the canvas.** -/
theorem onCanvas_clamp (widget : Widget) : widget.clamp.OnCanvas := by
  have hcanvas : 1 ≤ canvasWidth.toNat ∧ 1 ≤ canvasHeight.toNat := by decide
  obtain ⟨hwidth, hright⟩ := clampStart_add_clampSize hcanvas.1 widget.x widget.width
  obtain ⟨hheight, hbottom⟩ := clampStart_add_clampSize hcanvas.2 widget.y widget.height
  exact ⟨hwidth, hheight, hright, hbottom⟩

/-- **Only widgets on the canvas stay as they are.** -/
theorem clamp_eq_iff_onCanvas (widget : Widget) : widget.clamp = widget ↔ widget.OnCanvas := by
  constructor
  · intro h
    rw [← h]
    exact widget.onCanvas_clamp
  · exact OnCanvas.clamp_eq

/-- Size and bounds have flaws exactly if the widget is not on the canvas. -/
theorem geometryFlaws_eq_nil_iff (widget : Widget) :
    widget.geometryFlaws = [] ↔ widget.OnCanvas := by
  have hsize : widget.sizeFlaws = [] ↔ 1 ≤ widget.width.toNat ∧ 1 ≤ widget.height.toNat := by
    have hzero : ∀ n : UInt32, n = 0 ↔ n.toNat = 0 := fun n => by
      rw [← UInt32.toNat_inj]
      rfl
    rw [sizeFlaws, ite_eq_right_iff, hzero, hzero]
    simp
    omega
  have hbounds : widget.boundsFlaws = [] ↔
      widget.x.toNat + widget.width.toNat ≤ 800 ∧ widget.y.toNat + widget.height.toNat ≤ 480 := by
    rw [← fitsCanvas_iff, boundsFlaws]
    cases widget.fitsCanvas <;> simp
  rw [geometryFlaws, List.append_eq_nil_iff, hsize, hbounds]
  constructor
  · rintro ⟨⟨hwidth, hheight⟩, hright, hbottom⟩
    exact ⟨hwidth, hheight, hright, hbottom⟩
  · intro h
    exact ⟨⟨h.width_pos, h.height_pos⟩, h.right_le, h.bottom_le⟩

end Canvas

section Flaws

theorem flaws_eq (widget : Widget) :
    widget.flaws = widget.idFlaws ++ widget.geometryFlaws ++ widget.contentFlaws := by
  simp [flaws, geometryFlaws, contentFlaws]

theorem isGeometric_of_mem_geometryFlaws
    {widget : Widget} {flaw : Flaw}
    (h : flaw ∈ widget.geometryFlaws) :
    flaw.kind.isGeometric = true := by
  rcases List.mem_append.mp h with h | h
  · unfold sizeFlaws at h
    split at h
    · rw [List.mem_singleton.mp h]
      rfl
    · cases h
  · unfold boundsFlaws at h
    split at h
    · cases h
    · rw [List.mem_singleton.mp h]
      rfl

theorem isGeometric_of_mem_idFlaws
    {widget : Widget} {flaw : Flaw}
    (h : flaw ∈ widget.idFlaws) :
    flaw.kind.isGeometric = false := by
  unfold idFlaws at h
  split at h
  · rw [List.mem_singleton.mp h]
    rfl
  · cases h

theorem isGeometric_of_mem_contentFlaws
    {widget : Widget} {flaw : Flaw}
    (h : flaw ∈ widget.contentFlaws) :
    flaw.kind.isGeometric = false := by
  rw [contentFlaws, List.mem_append, List.mem_append, List.mem_append] at h
  rcases h with ((h | h) | h) | h
  · unfold dataPointFlaws at h
    split at h
    · rw [List.mem_singleton.mp h]
      rfl
    · split at h
      · split at h
        · rw [List.mem_singleton.mp h]
          rfl
        · cases h
      · cases h
  · obtain ⟨key, -, rfl⟩ := List.mem_map.mp h
    rfl
  · unfold fontSizeFlaws at h
    split at h
    · split at h
      · cases h
      · rw [List.mem_singleton.mp h]
        rfl
    · cases h
  · unfold gaugeFlaws at h
    split at h
    · rw [List.mem_singleton.mp h]
      rfl
    · cases h

/-- Without the flaws of the geometry the others are left in their order. -/
theorem filter_flaws (widget : Widget) :
    (widget.flaws.filter fun flaw => !flaw.kind.isGeometric) =
      widget.idFlaws ++ widget.contentFlaws := by
  have hid : (widget.idFlaws.filter fun flaw => !flaw.kind.isGeometric) = widget.idFlaws := by
    refine List.filter_eq_self.mpr ?_
    intro flaw hflaw
    rw [isGeometric_of_mem_idFlaws hflaw, Bool.not_false]
  have hgeometry : (widget.geometryFlaws.filter fun flaw => !flaw.kind.isGeometric) = [] := by
    refine List.filter_eq_nil_iff.mpr ?_
    intro flaw hflaw
    rw [isGeometric_of_mem_geometryFlaws hflaw]
    decide
  have hcontent : (widget.contentFlaws.filter fun flaw => !flaw.kind.isGeometric) =
      widget.contentFlaws := by
    refine List.filter_eq_self.mpr ?_
    intro flaw hflaw
    rw [isGeometric_of_mem_contentFlaws hflaw, Bool.not_false]
  rw [flaws_eq, List.filter_append, List.filter_append, hid, hgeometry, hcontent,
    List.append_nil]

/-- **Clamping takes away the flaws of the geometry and no others.** -/
theorem flaws_clamp (widget : Widget) :
    widget.clamp.flaws = widget.flaws.filter fun flaw => !flaw.kind.isGeometric := by
  have hgeometry : widget.clamp.geometryFlaws = [] :=
    (geometryFlaws_eq_nil_iff _).mpr widget.onCanvas_clamp
  have hid : widget.clamp.idFlaws = widget.idFlaws := rfl
  have hcontent : widget.clamp.contentFlaws = widget.contentFlaws := rfl
  rw [filter_flaws, flaws_eq, hgeometry, hid, hcontent, List.append_nil]

/-- A widget is on the canvas exactly if no flaw is about the geometry. -/
theorem onCanvas_iff_flaws (widget : Widget) :
    widget.OnCanvas ↔ ∀ flaw ∈ widget.flaws, flaw.kind.isGeometric = false := by
  rw [← geometryFlaws_eq_nil_iff, flaws_eq]
  constructor
  · intro hnone flaw hflaw
    rw [hnone, List.append_nil, List.mem_append] at hflaw
    rcases hflaw with hflaw | hflaw
    · exact isGeometric_of_mem_idFlaws hflaw
    · exact isGeometric_of_mem_contentFlaws hflaw
  · intro h
    refine List.eq_nil_iff_forall_not_mem.mpr ?_
    intro flaw hflaw
    have hother := h flaw (List.mem_append_left _ (List.mem_append_right _ hflaw))
    rw [isGeometric_of_mem_geometryFlaws hflaw] at hother
    cases hother

end Flaws

/-- **Clamping mends the problems of size and place and leaves all others in their order; what it
subtracts from the canvas is never more than the canvas; and it changes nothing exactly if there is
no such problem.** -/
theorem problems_clamp (widget : Widget) :
    widget.clamp.problems =
        (widget.problems.filter fun problem => !problem.kind.isGeometric) ∧
      (clampSize widget.width canvasWidth ≤ canvasWidth ∧
        clampSize widget.height canvasHeight ≤ canvasHeight) ∧
      (widget.clamp = widget ↔
        ∀ problem ∈ widget.problems, problem.kind.isGeometric = false) := by
  refine ⟨?_, ⟨clampSize_le (by decide) _, clampSize_le (by decide) _⟩, ?_⟩
  · have hid : widget.clamp.id = widget.id := rfl
    rw [problems, problems, flaws_clamp, hid, List.filter_map]
    rfl
  · rw [clamp_eq_iff_onCanvas, onCanvas_iff_flaws, problems, List.forall_mem_map]
    rfl

end Widget
end EpaperLayout
