import EpaperLayout.Proofs.Layout.ValidEdits
import EpaperLayout.Proofs.Snippet.RoutineFragments

/-!
# Draw calls stay in range

The draw calls of a widget are program text for the device, which does not check
the numbers in it.  So a division by zero, a negative scale, a font that there is
not or a name that is no identifier would go unnoticed up to there.

**Input.**  A widget in which validation finds no problem.  Validation and drawing
each put defaults in the place of settings that are absent.

**Calls.**  `DrawCall` is a draw call before it is written: which call it is, with
its numbers and names.  `DrawCall.line` writes it, and `DrawCall.Safe` says that its
numbers are in range and its names are identifiers.

**Results.**
* `isComponentName_componentId`: every data point gets an identifier.
* `toInt_sub_toInt64`: the divisor of a gauge is computed without overflow.
* `gaugeRange_mem_flaws_iff`: validation reports a gauge range exactly if the divisor
  that would be drawn with is not positive.
* `drawCalls_safe`: all calls of a widget without problems are safe.
-/

namespace EpaperLayout
namespace Snippet

/-- A name that a component may have. -/
structure IsComponentName (name : String) : Prop where
  ne_empty : name ≠ ""
  chars : ∀ c ∈ name.toList, Text.isIdentifierChar c = true
  first : ∀ c ∈ name.toList.head?, Text.isDigit c = false

/-- A draw call with its numbers and names. -/
inductive DrawCall where
  /-- A text in a font. -/
  | label (x y size : Nat) (color body : String)
  /-- The value of a component in a font. -/
  | value (x y size : Nat) (color format source : String)
  /-- A glyph in a font of icons. -/
  | icon (x y size : Nat) (color glyph : String)
  /-- The time in a font. -/
  | clock (x y size : Nat) (color format : String)
  /-- The frame of a gauge. -/
  | frame (x y width height : Nat) (color : String)
  /-- The bar of a gauge: as much of the width as the value of a component, from `low` on, is of
  `divisor`. -/
  | bar (x y width height : Nat) (source : String) (low divisor : Int) (color : String)
deriving DecidableEq, Repr

namespace DrawCall

/-- The line of a call. -/
def line : DrawCall → String
  | label x y size color body => s!"it.print({x}, {y}, id(font_{size}), {color}, {body});"
  | value x y size color format source =>
    s!"it.printf({x}, {y}, id(font_{size}), {color}, {format}, id({source}).state);"
  | icon x y size color glyph => s!"it.print({x}, {y}, id(icon_font_{size}), {color}, {glyph});"
  | clock x y size color format =>
    s!"it.strftime({x}, {y}, id(font_{size}), {color}, {format}, id({timeSource}).now());"
  | frame x y width height color => s!"it.rectangle({x}, {y}, {width}, {height}, {color});"
  | bar x y width height source low divisor color =>
    s!"it.filled_rectangle({x}, {y}, (int) ({width} * std::clamp((id({source}).state" ++
      s!" - ({low})) / {divisor}.0f, 0.0f, 1.0f)), {height}, {color});"

/-- A rectangle that lies on the canvas. -/
def OnCanvas (x y width height : Nat) : Prop :=
  x + width ≤ 800 ∧ y + height ≤ 480

/-- A font size that there is a font of. -/
def IsFontSize (size : Nat) : Prop :=
  6 ≤ size ∧ size ≤ 200

/-- The numbers of a call are in range, and its names are identifiers. -/
def Safe : DrawCall → Prop
  | label _ _ size _ _ | icon _ _ size _ _ | clock _ _ size _ _ => IsFontSize size
  | value _ _ size _ _ source => IsFontSize size ∧ IsComponentName source
  | frame x y width height _ => OnCanvas x y width height
  | bar x y width height source _ divisor _ =>
    OnCanvas x y width height ∧ IsComponentName source ∧ 1 ≤ divisor ∧ divisor ≤ 2 ^ 32 - 1

/-- The calls that draw a widget, with the defaults of validation for settings that are absent. -/
def ofWidget (widget : Widget) : List DrawCall :=
  let style := widget.style
  let x := widget.x.toNat
  let y := widget.y.toNat
  let width := widget.width.toNat
  let height := widget.height.toNat
  let color := (style.color.map Color.drawExpression).getD defaultColor
  let size := (style.fontSize.getD defaultFontSize).toNat
  let source := componentId (widget.dataPoint.getD "")
  let low := (style.min.getD Style.defaultGaugeMin).toInt
  let high := (style.max.getD Style.defaultGaugeMax).toInt
  match widget.kind with
  | .text => [label x y size color (stringLiteral (style.text.getD ""))]
  | .value =>
    [value x y size color (stringLiteral (style.format.getD defaultValueFormat)) source]
  | .icon => [icon x y size color (iconLiteral (style.icon.getD ""))]
  | .gauge =>
    [frame x y width height color, bar x y width height source low (high - low) color]
  | .clock => [clock x y size color (stringLiteral (style.format.getD defaultClockFormat))]

/-- The lines of the calls are what is written. -/
theorem drawCalls_eq (widget : Widget) :
    drawCalls widget = (ofWidget widget).map line := by
  unfold ofWidget drawCalls
  cases widget.kind <;> rfl

end DrawCall

section Names

/-- **Every data point gets an identifier.** -/
theorem isComponentName_componentId (dataPoint : String) :
    IsComponentName (componentId dataPoint) := by
  refine ⟨?_, fun _ hc => isIdentifierChar_of_mem_componentId hc, ?_⟩
  · unfold componentId
    cases dataPoint.toList.map componentChar with
    | nil =>
        decide
    | cons c rest =>
        simp only
        split <;> simp
  · have hunderscore : ∀ c, some '_' = some c → Text.isDigit c = false := by
      rintro c ⟨⟩
      rfl
    intro c hc
    rw [Option.mem_def] at hc
    unfold componentId at hc
    cases hchars : dataPoint.toList.map componentChar with
    | nil =>
        rw [hchars] at hc
        exact hunderscore c hc
    | cons first rest =>
        rw [hchars] at hc
        simp only at hc
        split at hc
        · rw [String.toList_ofList] at hc
          exact hunderscore c hc
        · next hdigit =>
          rw [String.toList_ofList, List.head?_cons, Option.some.injEq] at hc
          rwa [← hc, ← Bool.not_eq_true]

end Names

section Gauges

/-- **The difference of two numbers of 32 bits is a number of 64 bits.** -/
theorem toInt_sub_toInt64 (high low : Int32) :
    (high.toInt64 - low.toInt64).toInt = high.toInt - low.toInt := by
  have hhigh := And.intro high.le_toInt high.toInt_lt
  have hlow := And.intro low.le_toInt low.toInt_lt
  rw [Int64.toInt_sub, Int32.toInt_toInt64, Int32.toInt_toInt64]
  exact Int.bmod_eq_of_le (by omega) (by omega)

/-- A range that is reported is a flaw of the gauge. -/
theorem gaugeRange_mem_gaugeFlaws
    {widget : Widget} {low high : Int32}
    (h : Flaw.gaugeRange low high ∈ widget.flaws) :
    Flaw.gaugeRange low high ∈ widget.gaugeFlaws := by
  have hid : Flaw.gaugeRange low high ∉ widget.idFlaws := by
    unfold Widget.idFlaws
    split <;> simp
  have hsize : Flaw.gaugeRange low high ∉ widget.sizeFlaws := by
    unfold Widget.sizeFlaws
    split <;> simp
  have hbounds : Flaw.gaugeRange low high ∉ widget.boundsFlaws := by
    unfold Widget.boundsFlaws
    split <;> simp
  have hpoint : Flaw.gaugeRange low high ∉ widget.dataPointFlaws := by
    unfold Widget.dataPointFlaws
    repeat' split
    all_goals simp
  have hkeys : Flaw.gaugeRange low high ∉ widget.styleKeyFlaws := by
    simp [Widget.styleKeyFlaws]
  have hfont : Flaw.gaugeRange low high ∉ widget.fontSizeFlaws := by
    unfold Widget.fontSizeFlaws
    repeat' split
    all_goals simp
  simpa [Widget.flaws, hid, hsize, hbounds, hpoint, hkeys, hfont] using h

/-- **A range is reported exactly if the divisor that would be drawn with is not positive.** -/
theorem gaugeRange_mem_flaws_iff (widget : Widget) (low high : Int32) :
    Flaw.gaugeRange low high ∈ widget.flaws
      ↔
    low = widget.style.gaugeMin ∧ high = widget.style.gaugeMax ∧ high.toInt - low.toInt ≤ 0 := by
  constructor
  · intro h
    have hgauge := gaugeRange_mem_gaugeFlaws h
    unfold Widget.gaugeFlaws at hgauge
    split at hgauge
    · next hempty =>
      rw [Bool.and_eq_true, decide_eq_true_eq, Int32.le_iff_toInt_le] at hempty
      obtain ⟨rfl, rfl⟩ := Flaw.gaugeRange.inj (List.mem_singleton.mp hgauge)
      exact ⟨rfl, rfl, by omega⟩
    · cases hgauge
  · rintro ⟨rfl, rfl, hempty⟩
    have hset : (widget.style.min.isSome || widget.style.max.isSome) = true := by
      by_contra hunset
      rw [Bool.or_eq_true, not_or, Option.not_isSome_iff_eq_none, Option.not_isSome_iff_eq_none]
        at hunset
      -- the defaults alone are a range
      have hdefault : ¬ Style.defaultGaugeMax.toInt - Style.defaultGaugeMin.toInt ≤ 0 := by
        decide
      rw [Style.gaugeMax, Style.gaugeMin, hunset.1, hunset.2] at hempty
      exact hdefault hempty
    have hle : widget.style.gaugeMax ≤ widget.style.gaugeMin := by
      rw [Int32.le_iff_toInt_le]
      omega
    refine List.mem_append_right _ ?_
    unfold Widget.gaugeFlaws
    rw [if_pos (by simp [hset, hle])]
    exact List.mem_singleton_self _

/-- The divisor of a widget without flaws is positive, and 32 bits hold it. -/
theorem divisor_bounds
    {widget : Widget}
    (h : widget.flaws = []) :
    1 ≤ widget.style.gaugeMax.toInt - widget.style.gaugeMin.toInt ∧
      widget.style.gaugeMax.toInt - widget.style.gaugeMin.toInt ≤ 2 ^ 32 - 1 := by
  have hhigh := And.intro widget.style.gaugeMax.le_toInt widget.style.gaugeMax.toInt_lt
  have hlow := And.intro widget.style.gaugeMin.le_toInt widget.style.gaugeMin.toInt_lt
  have hpositive : ¬ widget.style.gaugeMax.toInt - widget.style.gaugeMin.toInt ≤ 0 := by
    intro hempty
    have hmem := (gaugeRange_mem_flaws_iff widget _ _).mpr ⟨rfl, rfl, hempty⟩
    rw [h] at hmem
    cases hmem
  exact ⟨by omega, by omega⟩

end Gauges

section Calls

/-- A widget without problems is drawn in a font that there is. -/
theorem isFontSize_of_sound
    {widget : Widget}
    (h : widget.Sound) :
    DrawCall.IsFontSize (widget.style.fontSize.getD defaultFontSize).toNat := by
  cases hsize : widget.style.fontSize with
  | none => exact ⟨by decide, by decide⟩
  | some size => exact h.fontSize_range size hsize

/-- **All draw calls of a widget without problems are safe.** -/
theorem safe_of_mem_ofWidget
    {widget : Widget} {call : DrawCall}
    (h : widget.problems = [])
    (hcall : call ∈ DrawCall.ofWidget widget) :
    call.Safe := by
  have hsound := widget.problems_eq_nil_iff_sound.mp h
  have hfont := isFontSize_of_sound hsound
  have hsource := isComponentName_componentId (widget.dataPoint.getD "")
  have hcanvas : DrawCall.OnCanvas widget.x.toNat widget.y.toNat widget.width.toNat
      widget.height.toNat := ⟨hsound.right_le, hsound.bottom_le⟩
  unfold DrawCall.ofWidget at hcall
  cases hkind : widget.kind <;> simp only [hkind, List.mem_singleton, List.mem_pair] at hcall
  case text =>
    rw [hcall]
    exact hfont
  case value =>
    rw [hcall]
    exact ⟨hfont, hsource⟩
  case icon =>
    rw [hcall]
    exact hfont
  case gauge =>
    rcases hcall with rfl | rfl
    · exact hcanvas
    · exact ⟨hcanvas, hsource, divisor_bounds (widget.problems_eq_nil_iff.mp h)⟩
  case clock =>
    rw [hcall]
    exact hfont

/-- **The draw calls of a widget in which validation finds no problem stay in range: fonts are of
sizes that there are, rectangles on the canvas, divisors positive and of 32 bits, and components
have names.  Validation and drawing agree on the range of a gauge, and its length does not
overflow.** -/
theorem drawCalls_safe (widget : Widget) :
    drawCalls widget = (DrawCall.ofWidget widget).map DrawCall.line ∧
      (widget.problems = [] → ∀ call ∈ DrawCall.ofWidget widget, call.Safe) ∧
      (∀ low high, Flaw.gaugeRange low high ∈ widget.flaws ↔
        low = widget.style.gaugeMin ∧ high = widget.style.gaugeMax ∧
          high.toInt - low.toInt ≤ 0) ∧
      (widget.style.gaugeMax.toInt64 - widget.style.gaugeMin.toInt64).toInt =
        widget.style.gaugeMax.toInt - widget.style.gaugeMin.toInt ∧
      ∀ dataPoint, IsComponentName (componentId dataPoint) :=
  ⟨DrawCall.drawCalls_eq widget, fun h _ hcall => safe_of_mem_ofWidget h hcall,
    gaugeRange_mem_flaws_iff widget, toInt_sub_toInt64 _ _, isComponentName_componentId⟩

/-- A gauge of one pixel in the last corner with the longest range that there is. -/
theorem drawCalls_safe_longestRange :
    let widget : Widget :=
      { id := "g", kind := .gauge, dataPoint := some "7-day.mean"
        x := 799, y := 479, width := 1, height := 1
        style := { min := some (-2147483648), max := some 2147483647 } }
    widget.problems = [] ∧
      drawCalls widget =
        ["it.rectangle(799, 479, 1, 1, COLOR_ON);",
          "it.filled_rectangle(799, 479, (int) (1 * std::clamp((id(_7_day_mean).state" ++
            " - (-2147483648)) / 4294967295.0f, 0.0f, 1.0f)), 1, COLOR_ON);"] ∧
      ∀ call ∈ DrawCall.ofWidget widget, call.Safe := by
  intro widget
  have hproblems : widget.problems = [] := by decide
  exact ⟨hproblems, by decide, (drawCalls_safe widget).2.1 hproblems⟩

end Calls

end Snippet
end EpaperLayout
