import EpaperLayout.Proofs.Layout.Violations
import Mathlib.Tactic

/-!
# Reports are exact

Validation reports every breach of a rule once and nothing else.  The rules are
stated here without the walk that looks for their breaches: `Widget.breaches`
and `Device.breaches` count, kind by kind, what is wrong with a widget or a
device in unbounded numbers and over whole lists.

**Counting.** `tally` counts the violations of one kind in a list.  A list of
flaws that are all of one kind counts with its length for that kind and not at
all for the others, so the tally of a widget is read off its parts.

**Repeated identifiers.** Validation compares each identifier with the ones
before it.  `repeats` counts the same occurrences over a finished list; it grows
by at most one with each identifier at the end, and it is zero for identifiers
that are not blank exactly when they are distinct.

**Results.**
* `Device.countP_errors`: as many errors of a kind as breaches of it.
* `Device.valid_iff`: no breach of any kind is what `Device.Valid` says.
* `Device.errors_exact`: both together, about the report.
-/

namespace EpaperLayout

/-! ## Repeated identifiers -/

/-- Occurrences of identifiers that are not blank and stand earlier in the list as well. -/
def repeats (ids : List String) : Nat :=
  ids.zipIdx.countP fun place =>
    !Text.isBlankText place.1 && (ids.take place.2).contains place.1

/-- Only the identifiers before an occurrence decide whether it is a repeated one. -/
theorem repeats_concat (ids : List String) (id : String) :
    repeats (ids ++ [id]) =
      repeats ids + if !Text.isBlankText id && ids.contains id then 1 else 0 := by
  have hearlier : ids.zipIdx.countP (fun place =>
        !Text.isBlankText place.1 && ((ids ++ [id]).take place.2).contains place.1) =
      repeats ids := by
    refine List.countP_congr ?_
    intro place hplace
    have hindex : place.2 ≤ ids.length := by
      have := List.snd_lt_of_mem_zipIdx hplace
      omega
    rw [List.take_append_of_le_length hindex]
  rw [repeats, List.zipIdx_append, List.countP_append, hearlier]
  simp

/-- Identifiers that are not blank are distinct if none is repeated. -/
theorem repeats_eq_zero_iff
    {ids : List String}
    (h : ∀ id ∈ ids, Text.isBlankText id = false) :
    repeats ids = 0 ↔ ids.Nodup := by
  induction ids using List.reverseRecOn with
  | nil =>
      simp [repeats]
  | append_singleton ids id ih =>
      have hid := h id (by simp)
      have hids := ih fun other hother => h other (by simp [hother])
      rw [repeats_concat, Nat.add_eq_zero_iff, hids, List.nodup_append_comm]
      simp [hid, and_comm]

example : repeats ["clock", "", "clock", "label", "", "clock"] = 2 := by
  decide

/-! ## Counting problems by their kind -/

namespace Violation

/-- The violations of a kind in a list, counted. -/
def tally (kind : ProblemKind) (violations : List Violation) : Nat :=
  violations.countP fun violation => violation.problem.kind = kind

@[simp]
theorem tally_nil (kind : ProblemKind) : tally kind [] = 0 :=
  rfl

@[simp]
theorem tally_append (kind : ProblemKind) (first second : List Violation) :
    tally kind (first ++ second) = tally kind first + tally kind second :=
  List.countP_append

@[simp]
theorem tally_singleton (kind : ProblemKind) (violation : Violation) :
    tally kind [violation] = if violation.problem.kind = kind then 1 else 0 := by
  simp [tally, List.countP_cons]

/-- Nothing is in a list of violations if it has none of any kind. -/
theorem eq_nil_iff_tally (violations : List Violation) :
    violations = [] ↔ ∀ kind, tally kind violations = 0 := by
  constructor
  · rintro rfl kind
    rfl
  · intro h
    refine List.eq_nil_iff_forall_not_mem.mpr ?_
    intro violation hviolation
    have hnone := List.countP_eq_zero.mp (h violation.problem.kind) violation hviolation
    simp at hnone

end Violation

namespace Flaw

/-- The flaws of a kind in a list, counted. -/
def tally (kind : ProblemKind) (flaws : List Flaw) : Nat :=
  flaws.countP fun flaw => flaw.kind = kind

theorem tally_append (kind : ProblemKind) (first second : List Flaw) :
    tally kind (first ++ second) = tally kind first + tally kind second :=
  List.countP_append

/-- A flaw that is there under a condition counts for its kind under that condition. -/
theorem tally_ite (condition : Prop) [Decidable condition] (flaw : Flaw) (kind : ProblemKind) :
    tally kind (if condition then [flaw] else []) =
      if kind = flaw.kind then (if condition then 1 else 0) else 0 := by
  by_cases hkind : kind = flaw.kind
  · subst hkind
    split <;> simp [tally]
  · have hother : ¬ flaw.kind = kind := fun heq => hkind heq.symm
    rw [if_neg hkind]
    split <;> simp [tally, hother]

/-- A flaw that is there unless a condition holds counts for its kind unless it does. -/
theorem tally_ite_nil (condition : Prop) [Decidable condition] (flaw : Flaw)
    (kind : ProblemKind) :
    tally kind (if condition then [] else [flaw]) =
      if kind = flaw.kind then (if condition then 0 else 1) else 0 := by
  rw [← ite_not, tally_ite, ite_not]

/-- Flaws of one kind all count for that kind and for no other. -/
theorem tally_map_of_kind
    {α : Type} {flaw : α → Flaw} {kind : ProblemKind}
    (h : ∀ a, (flaw a).kind = kind)
    (asked : ProblemKind) (items : List α) :
    tally asked (items.map flaw) = if asked = kind then items.length else 0 := by
  by_cases hasked : asked = kind
  · subst hasked
    simp [tally, List.countP_map, Function.comp_def, h]
  · have hother : ¬ kind = asked := fun heq => hasked heq.symm
    simp [tally, List.countP_map, Function.comp_def, h, hasked, hother]

end Flaw

/-! ## The rules of a widget -/

namespace Widget

/-- How often a widget breaks, by itself, rules of a kind. -/
def breaches (widget : Widget) : ProblemKind → Nat
  | .missingIdentifier => if Text.isBlankText widget.id then 1 else 0
  | .zeroSize => if widget.width.toNat = 0 ∨ widget.height.toNat = 0 then 1 else 0
  | .outOfBounds =>
    if widget.x.toNat + widget.width.toNat ≤ 800 ∧ widget.y.toNat + widget.height.toNat ≤ 480
    then 0 else 1
  | .missingDataPoint =>
    if widget.kind.requiresDataPoint ∧ widget.dataPoint.getD "" = "" then 1 else 0
  | .invalidDataPoint => if (widget.dataPoint.getD "").toList.any Text.isControl then 1 else 0
  | .styleKeyNotAllowed =>
    StyleKey.all.countP fun key => widget.style.has key && !widget.kind.allows key
  | .invalidStyleValue =>
    (if widget.style.fontSize.all fun size => 6 ≤ size.toNat && size.toNat ≤ 200 then 0 else 1) +
      if (widget.style.min.isSome ∨ widget.style.max.isSome) ∧
          (widget.style.max.getD 100).toInt ≤ (widget.style.min.getD 0).toInt
      then 1 else 0
  | .emptyDevice | .ordinalMismatch | .duplicateIdentifier => 0

/-- A cut-off sum is within a bound below the cut exactly when the sum is. -/
theorem saturatingAdd_le_iff
    {bound : UInt32}
    (a b : UInt32)
    (hbound : bound.toNat < UInt32.size - 1) :
    saturatingAdd a b ≤ bound ↔ a.toNat + b.toNat ≤ bound.toNat := by
  have hcut : Nat.min (a.toNat + b.toNat) (UInt32.size - 1) < UInt32.size :=
    lt_of_le_of_lt (Nat.min_le_right _ _) (by decide)
  rw [UInt32.le_iff_toNat_le, saturatingAdd, UInt32.toNat_ofNat_of_lt' hcut]
  change min (a.toNat + b.toNat) (UInt32.size - 1) ≤ bound.toNat ↔ _
  omega

theorem fitsCanvas_iff (widget : Widget) :
    widget.fitsCanvas = true
      ↔
    widget.x.toNat + widget.width.toNat ≤ 800 ∧
      widget.y.toNat + widget.height.toNat ≤ 480 := by
  rw [fitsCanvas, Bool.and_eq_true, decide_eq_true_iff, decide_eq_true_iff, right, bottom,
    saturatingAdd_le_iff _ _ (by decide), saturatingAdd_le_iff _ _ (by decide)]
  rfl

/-- The flaws of the data point do not hide each other: an empty one has no control character. -/
theorem tally_dataPointFlaws (widget : Widget) (kind : ProblemKind) :
    Flaw.tally kind widget.dataPointFlaws =
      (if kind = .missingDataPoint then widget.breaches .missingDataPoint else 0) +
        if kind = .invalidDataPoint then widget.breaches .invalidDataPoint else 0 := by
  have hmissing :
      (widget.kind.requiresDataPoint && (widget.dataPoint.getD "").isEmpty) = true
        ↔ widget.kind.requiresDataPoint ∧ widget.dataPoint.getD "" = "" := by
    simp
  rw [dataPointFlaws]
  by_cases habsent :
      (widget.kind.requiresDataPoint && (widget.dataPoint.getD "").isEmpty) = true
  · have hempty := (hmissing.mp habsent).2
    rw [if_pos habsent]
    cases kind <;> simp [breaches, hmissing.mp habsent, Flaw.tally, Flaw.kind]
  · rw [if_neg habsent]
    have hpresent := mt hmissing.mpr habsent
    cases hpoint : widget.dataPoint with
    | none =>
        rw [hpoint] at hpresent
        cases kind <;> simp_all [breaches, Flaw.tally]
    | some point =>
        rw [hpoint] at hpresent
        rw [Flaw.tally_ite]
        cases kind <;> simp_all [breaches, Flaw.kind]

theorem tally_styleKeyFlaws (widget : Widget) (kind : ProblemKind) :
    Flaw.tally kind widget.styleKeyFlaws =
      if kind = .styleKeyNotAllowed then widget.breaches .styleKeyNotAllowed else 0 := by
  have hkeys : (widget.style.keys.filter fun key => !widget.kind.allows key).length =
      widget.breaches .styleKeyNotAllowed := by
    rw [Style.keys, List.filter_filter, ← List.countP_eq_length_filter, breaches]
    refine List.countP_congr ?_
    intro key _
    rw [Bool.and_comm]
  have hkind : ∀ key, (Flaw.styleKeyNotAllowed key widget.kind).kind = .styleKeyNotAllowed :=
    fun _ => rfl
  rw [styleKeyFlaws, Flaw.tally_map_of_kind hkind, hkeys]

/-- Font size and gauge range are the two style values that a widget can get wrong. -/
theorem tally_styleValueFlaws (widget : Widget) (kind : ProblemKind) :
    Flaw.tally kind widget.fontSizeFlaws + Flaw.tally kind widget.gaugeFlaws =
      if kind = .invalidStyleValue then widget.breaches .invalidStyleValue else 0 := by
  have hgauge :
      ((widget.style.min.isSome || widget.style.max.isSome)
          && decide (widget.style.gaugeMax ≤ widget.style.gaugeMin)) = true
        ↔
      (widget.style.min.isSome ∨ widget.style.max.isSome) ∧
        (widget.style.max.getD 100).toInt ≤ (widget.style.min.getD 0).toInt := by
    simp [Style.gaugeMax, Style.gaugeMin, Style.defaultGaugeMax, Style.defaultGaugeMin,
      Int32.le_iff_toInt_le]
  have hfont : Flaw.tally kind widget.fontSizeFlaws =
      if kind = .invalidStyleValue then
        (if widget.style.fontSize.all fun size => 6 ≤ size.toNat && size.toNat ≤ 200 then 0 else 1)
      else 0 := by
    rw [fontSizeFlaws]
    cases widget.style.fontSize with
    | none =>
        simp [Flaw.tally]
    | some size =>
        have hrange : Style.minFontSize ≤ size ∧ size ≤ Style.maxFontSize
            ↔ 6 ≤ size.toNat ∧ size.toNat ≤ 200 := by
          simp [Style.minFontSize, Style.maxFontSize, UInt16.le_iff_toNat_le]
        change Flaw.tally kind
          (if Style.minFontSize ≤ size ∧ size ≤ Style.maxFontSize then [] else [.fontSize size]) = _
        rw [Flaw.tally_ite_nil]
        simp only [hrange, Flaw.kind, Option.all_some, Bool.and_eq_true, decide_eq_true_iff]
  rw [hfont, gaugeFlaws, Flaw.tally_ite]
  simp only [hgauge, Flaw.kind, breaches]
  split <;> rfl

/-- The flaws of a widget are its breaches, kind by kind. -/
theorem tally_flaws (widget : Widget) (kind : ProblemKind) :
    Flaw.tally kind widget.flaws = widget.breaches kind := by
  have hsize : (widget.width = 0 ∨ widget.height = 0)
      ↔ (widget.width.toNat = 0 ∨ widget.height.toNat = 0) := by
    simp only [← UInt32.toNat_inj, UInt32.toNat_ofNat]
  have hbounds := widget.fitsCanvas_iff
  rw [flaws]
  simp only [Flaw.tally_append, Nat.add_assoc, tally_dataPointFlaws, tally_styleKeyFlaws,
    tally_styleValueFlaws, idFlaws, sizeFlaws, boundsFlaws, Flaw.tally_ite, Flaw.tally_ite_nil,
    Flaw.kind, hsize, hbounds]
  cases kind <;> simp [breaches]

/-- A sound widget breaks no rule by itself. -/
theorem Sound.breaches_eq_zero
    {widget : Widget}
    (h : widget.Sound)
    (kind : ProblemKind) :
    widget.breaches kind = 0 := by
  cases kind with
  | missingIdentifier =>
      simp [breaches, h.id_notBlank]
  | zeroSize =>
      have hwidth := h.width_pos
      have hheight := h.height_pos
      exact if_neg (by omega)
  | outOfBounds =>
      exact if_pos ⟨h.right_le, h.bottom_le⟩
  | missingDataPoint =>
      refine if_neg ?_
      rintro ⟨hkind, hempty⟩
      obtain ⟨point, hpoint, hne⟩ := h.dataPoint_present hkind
      simp [hpoint, hne] at hempty
  | invalidDataPoint =>
      refine if_neg ?_
      cases hpoint : widget.dataPoint with
      | none => simp
      | some point => simpa using h.dataPoint_clean point hpoint
  | styleKeyNotAllowed =>
      refine List.countP_eq_zero.mpr ?_
      intro key _
      simpa using h.styleKeys_allowed key
  | invalidStyleValue =>
      have hfont : (widget.style.fontSize.all fun size =>
          6 ≤ size.toNat && size.toNat ≤ 200) = true := by
        simpa [Option.all_eq_true] using h.fontSize_range
      rw [breaches, if_pos hfont, if_neg]
      rintro ⟨hset, hle⟩
      exact absurd (h.gauge_nonempty hset) (not_lt.mpr hle)
  | emptyDevice | ordinalMismatch | duplicateIdentifier =>
      rfl

/-- A widget that breaks no rule by itself is sound. -/
theorem sound_of_breaches_eq_zero
    {widget : Widget}
    (h : ∀ kind, widget.breaches kind = 0) :
    widget.Sound := by
  have hid := h .missingIdentifier
  have hsize := h .zeroSize
  have hbounds := h .outOfBounds
  have hmissing := h .missingDataPoint
  have hcontrol := h .invalidDataPoint
  have hkeys := h .styleKeyNotAllowed
  have hvalues := h .invalidStyleValue
  simp only [breaches, ite_eq_right_iff, ite_eq_left_iff, one_ne_zero, imp_false, not_not,
    Nat.add_eq_zero_iff, List.countP_eq_zero] at hid hsize hbounds hmissing hcontrol hkeys hvalues
  refine
    { id_notBlank := by simpa using hid
      width_pos := by omega
      height_pos := by omega
      right_le := hbounds.1
      bottom_le := hbounds.2
      dataPoint_present := ?_
      dataPoint_clean := ?_
      styleKeys_allowed := ?_
      fontSize_range := by simpa [Option.all_eq_true] using hvalues.1
      gauge_nonempty := fun hset => not_le.mp fun hle => hvalues.2 ⟨hset, hle⟩ }
  · intro hkind
    cases hpoint : widget.dataPoint with
    | none => simp [hkind, hpoint] at hmissing
    | some point => exact ⟨point, rfl, by simpa [hkind, hpoint] using hmissing⟩
  · intro point hpoint
    simpa [hpoint] using hcontrol
  · intro key
    simpa using hkeys key (StyleKey.mem_all key)

/-- A widget breaks no rule by itself exactly when it is sound. -/
theorem sound_iff (widget : Widget) :
    widget.Sound ↔ ∀ kind, widget.breaches kind = 0 :=
  ⟨Sound.breaches_eq_zero, sound_of_breaches_eq_zero⟩

/-- The violations by a widget are its breaches, and one repeated identifier at most. -/
theorem tally_violations
    (widget : Widget) (ordinal : UInt32) (earlier : List String) (kind : ProblemKind) :
    Violation.tally kind (widget.violations ordinal earlier) =
      widget.breaches kind +
        if kind = .duplicateIdentifier then
          (if !Text.isBlankText widget.id && earlier.contains widget.id then 1 else 0)
        else 0 := by
  have hflaws : Violation.tally kind (widget.flaws.map (.widgetFlaw ordinal widget.id)) =
      widget.breaches kind := by
    rw [Violation.tally, List.countP_map, ← tally_flaws]
    rfl
  rw [violations, Violation.tally_append, hflaws, Nat.add_left_cancel_iff]
  cases kind <;> split <;> simp [Violation.problem]

end Widget

/-! ## The rules of a device -/

namespace Page

/-- How often pages in their order break rules of a kind, with the identifiers of their widgets but
without what a widget breaks by itself. -/
def breaches (pages : List Page) : ProblemKind → Nat
  | .missingIdentifier => pages.countP fun page => Text.isBlankText page.id
  | .ordinalMismatch => pages.zipIdx.countP fun place => place.1.ordinal.toNat ≠ place.2
  | .duplicateIdentifier =>
    repeats (pages.map Page.id) + repeats ((pages.flatMap Page.widgets).map Widget.id)
  | _ => 0

/-- Widgets behind others add their breaches and their repeated identifiers. -/
theorem tally_widgetViolations
    (ordinal : UInt32) (earlier : List String) (widgets : List Widget) (kind : ProblemKind) :
    Violation.tally kind (widgetViolations ordinal earlier widgets) +
        (if kind = .duplicateIdentifier then repeats earlier else 0) =
      (widgets.map fun widget => widget.breaches kind).sum +
        if kind = .duplicateIdentifier then repeats (earlier ++ widgets.map Widget.id) else 0 := by
  induction widgets generalizing earlier with
  | nil =>
      simp [widgetViolations]
  | cons widget rest ih =>
      have hrest := ih (earlier ++ [widget.id])
      rw [repeats_concat, List.append_assoc, List.singleton_append] at hrest
      rw [widgetViolations, Violation.tally_append, Widget.tally_violations, List.map_cons,
        List.map_cons, List.sum_cons]
      by_cases hkind : kind = .duplicateIdentifier
      · simp only [if_pos hkind] at hrest ⊢
        omega
      · simp only [if_neg hkind] at hrest ⊢
        omega

/-- A page behind others adds its own breaches and those of its widgets. -/
theorem tally_violations
    (earlier : List Page) (page : Page) (kind : ProblemKind) :
    breaches earlier kind + Violation.tally kind (page.violations earlier) =
      breaches (earlier ++ [page]) kind +
        (page.widgets.map fun widget => widget.breaches kind).sum := by
  have hwidgets := tally_widgetViolations page.ordinal
    ((earlier.flatMap Page.widgets).map Widget.id) page.widgets kind
  have hrepeats := repeats_concat (earlier.map Page.id) page.id
  rw [violations, Violation.tally_append, Violation.tally_append, idViolations]
  simp only [apply_ite (Violation.tally kind), Violation.tally_nil, Violation.tally_singleton,
    Violation.problem]
  cases kind with
  | missingIdentifier =>
      simp only [breaches, List.countP_append, List.countP_singleton]
      simp at hwidgets ⊢
      omega
  | ordinalMismatch =>
      simp only [breaches, List.zipIdx_append, List.countP_append]
      simp at hwidgets ⊢
      omega
  | duplicateIdentifier =>
      simp only [breaches, List.map_append, List.map_singleton, hrepeats, List.flatMap_append,
        List.flatMap_singleton]
      cases Text.isBlankText page.id with
      | true =>
          simp at hwidgets ⊢
          omega
      | false =>
          simp at hwidgets ⊢
          omega
  | _ =>
      simpa [breaches] using hwidgets

end Page

namespace Device

/-- How often a device breaks rules of a kind. -/
def breaches (device : Device) (kind : ProblemKind) : Nat :=
  (if kind = .missingIdentifier ∧ Text.isBlankText device.id then 1 else 0) +
    (if kind = .emptyDevice ∧ device.pages = [] then 1 else 0) +
    Page.breaches device.pages kind +
    (device.widgets.map fun widget => widget.breaches kind).sum

/-- The violations of pages are the breaches of the pages and of their widgets. -/
theorem tally_pageViolations (pages : List Page) (kind : ProblemKind) :
    Violation.tally kind (pageViolations [] pages) =
      Page.breaches pages kind +
        ((pages.flatMap Page.widgets).map fun widget => widget.breaches kind).sum := by
  induction pages using List.reverseRecOn with
  | nil =>
      cases kind <;> rfl
  | append_singleton pages page ih =>
      have hpage := Page.tally_violations pages page kind
      rw [pageViolations_concat, Violation.tally_append, ih, List.flatMap_append,
        List.flatMap_singleton, List.map_append, List.sum_append]
      omega

/-- The violations of a device are its breaches, kind by kind. -/
theorem tally_violations (device : Device) (kind : ProblemKind) :
    Violation.tally kind device.violations = device.breaches kind := by
  have hpages := tally_pageViolations device.pages kind
  rw [violations, Violation.tally_append, breaches, Device.widgets, Nat.add_assoc, ← hpages]
  simp only [apply_ite (Violation.tally kind), Violation.tally_nil, Violation.tally_singleton,
    Violation.problem, List.isEmpty_iff]
  by_cases hnone : device.pages = []
  · cases kind <;> simp [hnone, pageViolations]
  · cases kind <;> simp [hnone]

/-- The pages of a device that keeps every rule break none. -/
theorem Valid.pageBreaches_eq_zero
    {device : Device}
    (h : device.Valid)
    (kind : ProblemKind) :
    Page.breaches device.pages kind = 0 := by
  cases kind with
  | missingIdentifier =>
      refine List.countP_eq_zero.mpr ?_
      intro page hpage
      simp [h.pageIds_notBlank page hpage]
  | ordinalMismatch =>
      refine List.countP_eq_zero.mpr ?_
      intro place hplace
      simpa using h.ordinals place.2 place.1 (List.mem_zipIdx_iff_getElem?.mp hplace)
  | duplicateIdentifier =>
      have hpages := (repeats_eq_zero_iff (List.forall_mem_map.mpr h.pageIds_notBlank)).mpr
        h.pageIds_distinct
      have hwidgets := (repeats_eq_zero_iff (List.forall_mem_map.mpr fun widget hwidget =>
        (h.widgets_sound widget hwidget).id_notBlank)).mpr h.widgetIds_distinct
      exact Nat.add_eq_zero_iff.mpr ⟨hpages, hwidgets⟩
  | _ =>
      rfl

/-- As many errors of a kind are reported as there are breaches of it. -/
theorem countP_errors (device : Device) (kind : ProblemKind) :
    device.validate.errors.countP (fun problem => problem.kind = kind) = device.breaches kind := by
  rw [validate, List.countP_map, ← tally_violations]
  rfl

/-- A device keeps every rule exactly when it breaks none of any kind. -/
theorem valid_iff (device : Device) :
    device.Valid ↔ ∀ kind, device.breaches kind = 0 := by
  have hsum : ∀ kind, (device.widgets.map fun widget => widget.breaches kind).sum = 0
      ↔ ∀ widget ∈ device.widgets, widget.breaches kind = 0 := by
    intro kind
    simp [List.sum_eq_zero_iff]
  constructor
  · intro h kind
    have hwidgets := (hsum kind).mpr fun widget hwidget =>
      widget.sound_iff.mp (h.widgets_sound widget hwidget) kind
    simp [breaches, h.id_notBlank, h.pages_nonempty, h.pageBreaches_eq_zero, hwidgets]
  · intro h
    have hparts := fun kind => h kind
    simp only [breaches, Nat.add_eq_zero_iff, ite_eq_right_iff, one_ne_zero, imp_false] at hparts
    have hsound : ∀ widget ∈ device.widgets, widget.Sound := fun widget hwidget =>
      widget.sound_iff.mpr fun kind => (hsum kind).mp (hparts kind).2 widget hwidget
    have hpageIds : ∀ page ∈ device.pages, Text.isBlankText page.id = false := by
      simpa [Page.breaches] using (hparts .missingIdentifier).1.2
    have hrepeats := (hparts .duplicateIdentifier).1.2
    rw [Page.breaches, Nat.add_eq_zero_iff, ← Device.widgets,
      repeats_eq_zero_iff (List.forall_mem_map.mpr hpageIds),
      repeats_eq_zero_iff (List.forall_mem_map.mpr fun widget hwidget =>
        (hsound widget hwidget).id_notBlank)] at hrepeats
    refine
      { id_notBlank := by simpa using (hparts .missingIdentifier).1.1.1
        pages_nonempty := by simpa using (hparts .emptyDevice).1.1.2
        ordinals := ?_
        pageIds_notBlank := hpageIds
        pageIds_distinct := hrepeats.1
        widgetIds_distinct := hrepeats.2
        widgets_sound := hsound }
    intro i page hpage
    have hordinal := List.countP_eq_zero.mp (hparts .ordinalMismatch).1.2 (page, i)
      (List.mem_zipIdx_iff_getElem?.mpr hpage)
    simpa using hordinal

/-- A report has no errors exactly when the device keeps every rule, and otherwise it has one error
for every breach. -/
theorem errors_exact (device : Device) :
    (device.validate.errors = [] ↔ device.Valid) ∧
      ∀ kind, device.validate.errors.countP (fun problem => problem.kind = kind) =
        device.breaches kind := by
  refine ⟨?_, device.countP_errors⟩
  rw [validate, List.map_eq_nil_iff, Violation.eq_nil_iff_tally, valid_iff]
  simp only [tally_violations]

end Device
end EpaperLayout
