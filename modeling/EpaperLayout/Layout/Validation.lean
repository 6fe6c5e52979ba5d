import EpaperLayout.Layout.Device
import EpaperLayout.Layout.Report
import EpaperLayout.Text.Quoted

/-!
# Validation

What makes a device usable, and how every breach is reported.

**Flaws.** `Widget.flaws` lists, in a fixed order, the rules that a widget breaks
by itself: identifier, size, canvas, data point, style keys, font size, gauge
range.

**Violations.** `Device.violations` goes through the pages in order.  A page or
widget identifier is *repeated* if an earlier page or widget has it; blank
identifiers are reported as blank and never as repeated.  A device without pages
has no further violation than that and its own blank identifier.

**Declaratively.** `Device.Valid` says the same without an order and without
reports: it is what the list of violations being empty should mean.
-/

namespace EpaperLayout

/-- A rule that a widget breaks by itself. -/
inductive Flaw where
  | blankId
  | zeroSize (width height : UInt32)
  | outOfBounds (x y width height : UInt32)
  | missingDataPoint (kind : WidgetKind)
  | controlInDataPoint (point : String)
  | styleKeyNotAllowed (key : StyleKey) (kind : WidgetKind)
  | fontSize (size : UInt16)
  | gaugeRange (low high : Int32)
deriving DecidableEq, Repr

namespace Flaw

/-- The kind of problem that a flaw is. -/
def kind : Flaw → ProblemKind
  | .blankId => .missingIdentifier
  | .zeroSize .. => .zeroSize
  | .outOfBounds .. => .outOfBounds
  | .missingDataPoint _ => .missingDataPoint
  | .controlInDataPoint _ => .invalidDataPoint
  | .styleKeyNotAllowed .. => .styleKeyNotAllowed
  | .fontSize _ => .invalidStyleValue
  | .gaugeRange .. => .invalidStyleValue

/-- The message for a flaw. -/
def message : Flaw → String
  | .blankId => "Widget ID cannot be empty"
  | .zeroSize width height => s!"Size {width.toNat}x{height.toNat} must be at least 1x1"
  | .outOfBounds x y width height =>
    s!"Widget at ({x.toNat}, {y.toNat}) with size {width.toNat}x{height.toNat} " ++
      s!"exceeds the {canvasWidth.toNat}x{canvasHeight.toNat} canvas"
  | .missingDataPoint kind => s!"{kind.name} widgets need a data point"
  | .controlInDataPoint point => s!"Data point {Text.quoted point} contains control characters"
  | .styleKeyNotAllowed key kind =>
    s!"Style key '{key.name}' is not allowed for {kind.name} widgets"
  | .fontSize size =>
    s!"Font size {size.toNat} outside {Style.minFontSize.toNat}..={Style.maxFontSize.toNat}"
  | .gaugeRange low high => s!"Gauge range {low.toInt}..{high.toInt} is empty"

/-- How a flaw could be mended. -/
def suggestion? : Flaw → Option String
  | .outOfBounds .. => some "Move or shrink the widget"
  | _ => none

/-- The problem that a flaw of the widget with the identifier is. -/
def problem (id : String) (flaw : Flaw) : Problem where
  kind := flaw.kind
  widget := if flaw = .blankId then none else some id
  message := flaw.message
  suggestion := flaw.suggestion?

end Flaw

namespace Widget

/-- Flaws of the identifier. -/
def idFlaws (widget : Widget) : List Flaw :=
  if Text.isBlankText widget.id then [.blankId] else []

/-- Flaws of the size. -/
def sizeFlaws (widget : Widget) : List Flaw :=
  if widget.width = 0 ∨ widget.height = 0 then [.zeroSize widget.width widget.height] else []

/-- Flaws of the place on the canvas. -/
def boundsFlaws (widget : Widget) : List Flaw :=
  if widget.fitsCanvas then []
  else [.outOfBounds widget.x widget.y widget.width widget.height]

/-- Flaws of the data point. -/
def dataPointFlaws (widget : Widget) : List Flaw :=
  if widget.kind.requiresDataPoint && (widget.dataPoint.getD "").isEmpty then
    [.missingDataPoint widget.kind]
  else
    match widget.dataPoint with
    | some point =>
      if point.toList.any Text.isControl then [.controlInDataPoint point] else []
    | none => []

/-- Flaws of the set of style keys, one for each key that the kind does not allow. -/
def styleKeyFlaws (widget : Widget) : List Flaw :=
  (widget.style.keys.filter fun key => !widget.kind.allows key).map fun key =>
    .styleKeyNotAllowed key widget.kind

/-- Flaws of the font size. -/
def fontSizeFlaws (widget : Widget) : List Flaw :=
  match widget.style.fontSize with
  | some size =>
    if Style.minFontSize ≤ size ∧ size ≤ Style.maxFontSize then [] else [.fontSize size]
  | none => []

/-- Flaws of the gauge range, which is looked at as soon as one of its ends is set. -/
def gaugeFlaws (widget : Widget) : List Flaw :=
  if (widget.style.min.isSome || widget.style.max.isSome)
      && widget.style.gaugeMax ≤ widget.style.gaugeMin then
    [.gaugeRange widget.style.gaugeMin widget.style.gaugeMax]
  else []

/-- All rules that the widget breaks by itself. -/
def flaws (widget : Widget) : List Flaw :=
  widget.idFlaws ++ widget.sizeFlaws ++ widget.boundsFlaws ++ widget.dataPointFlaws
    ++ widget.styleKeyFlaws ++ widget.fontSizeFlaws ++ widget.gaugeFlaws

/-- The problems of the widget by itself. -/
def problems (widget : Widget) : List Problem :=
  widget.flaws.map (Flaw.problem widget.id)

/-- The widget breaks no rule by itself: geometry in unbounded numbers, data point and style. -/
structure Sound (widget : Widget) : Prop where
  id_notBlank : Text.isBlankText widget.id = false
  width_pos : 1 ≤ widget.width.toNat
  height_pos : 1 ≤ widget.height.toNat
  right_le : widget.x.toNat + widget.width.toNat ≤ 800
  bottom_le : widget.y.toNat + widget.height.toNat ≤ 480
  dataPoint_present :
    widget.kind.requiresDataPoint = true → ∃ point, widget.dataPoint = some point ∧ point ≠ ""
  dataPoint_clean :
    ∀ point, widget.dataPoint = some point → ∀ c ∈ point.toList, Text.isControl c = false
  styleKeys_allowed : ∀ key, widget.style.has key = true → widget.kind.allows key = true
  fontSize_range : ∀ size, widget.style.fontSize = some size → 6 ≤ size.toNat ∧ size.toNat ≤ 200
  gauge_nonempty :
    widget.style.min.isSome = true ∨ widget.style.max.isSome = true →
      (widget.style.min.getD 0).toInt < (widget.style.max.getD 100).toInt

end Widget

/-- A rule that a device breaks. -/
inductive Violation where
  | blankDeviceId
  | noPages (deviceId : String)
  | ordinalOffPosition (position : Nat) (ordinal : UInt32)
  | blankPageId (ordinal : UInt32)
  | repeatedPageId (ordinal : UInt32) (id : String)
  | widgetFlaw (ordinal : UInt32) (id : String) (flaw : Flaw)
  | repeatedWidgetId (ordinal : UInt32) (id : String)
deriving DecidableEq, Repr

namespace Violation

/-- The problem that a violation is. -/
def problem : Violation → Problem
  | .blankDeviceId =>
    { kind := .missingIdentifier, message := "Device ID cannot be empty" }
  | .noPages deviceId =>
    { kind := .emptyDevice
      message := s!"Device '{deviceId}' has no pages"
      suggestion := some "Add at least one page" }
  | .ordinalOffPosition position ordinal =>
    { kind := .ordinalMismatch
      page := some ordinal
      message := s!"Page at index {position} has ordinal {ordinal.toNat}"
      suggestion := some "Renumber pages so ordinals run 0, 1, 2, ... in display order" }
  | .blankPageId ordinal =>
    { kind := .missingIdentifier, page := some ordinal, message := "Page ID cannot be empty" }
  | .repeatedPageId ordinal id =>
    { kind := .duplicateIdentifier
      page := some ordinal
      message := s!"Page ID '{id}' appears multiple times" }
  | .widgetFlaw ordinal id flaw => { flaw.problem id with page := some ordinal }
  | .repeatedWidgetId ordinal id =>
    { kind := .duplicateIdentifier
      page := some ordinal
      widget := some id
      message := s!"Widget ID '{id}' appears multiple times" }

end Violation

namespace Widget

/-- Violations by a widget of the page with the ordinal, after widgets with the identifiers
`earlier`. -/
def violations (ordinal : UInt32) (earlier : List String) (widget : Widget) : List Violation :=
  widget.flaws.map (.widgetFlaw ordinal widget.id) ++
    if !Text.isBlankText widget.id && earlier.contains widget.id then
      [.repeatedWidgetId ordinal widget.id]
    else []

/-- The remark that a data point will not be shown. -/
def unusedDataPoint? (widget : Widget) : Option String :=
  if widget.dataPoint.isSome && !widget.kind.requiresDataPoint then
    some s!"Widget '{widget.id}' ({widget.kind.name}) has a data point that it does not display"
  else none

end Widget

namespace Page

/-- Violations by the widgets of the page with the ordinal, after widgets with the identifiers
`earlier`. -/
def widgetViolations (ordinal : UInt32) (earlier : List String) :
    List Widget → List Violation
  | [] => []
  | widget :: rest =>
    widget.violations ordinal earlier ++
      widgetViolations ordinal (earlier ++ [widget.id]) rest

/-- Violations by the identifier of a page that comes after pages with the identifiers
`earlier`. -/
def idViolations (earlier : List String) (page : Page) : List Violation :=
  if Text.isBlankText page.id then [.blankPageId page.ordinal]
  else if earlier.contains page.id then [.repeatedPageId page.ordinal page.id]
  else []

/-- Violations by a page that comes after the pages `earlier`. -/
def violations (earlier : List Page) (page : Page) : List Violation :=
  (if page.ordinal.toNat = earlier.length then []
    else [.ordinalOffPosition earlier.length page.ordinal])
    ++ idViolations (earlier.map Page.id) page
    ++ widgetViolations page.ordinal ((earlier.flatMap Page.widgets).map Widget.id) page.widgets

end Page

namespace Device

/-- Violations by pages that come after the pages `earlier`. -/
def pageViolations (earlier : List Page) : List Page → List Violation
  | [] => []
  | page :: rest => page.violations earlier ++ pageViolations (earlier ++ [page]) rest

/-- All rules that the device breaks. -/
def violations (device : Device) : List Violation :=
  (if Text.isBlankText device.id then [.blankDeviceId] else [])
    ++ if device.pages.isEmpty then [.noPages device.id] else pageViolations [] device.pages

/-- The remarks on a device. -/
def remarks (device : Device) : List String :=
  device.widgets.filterMap Widget.unusedDataPoint?

/-- The report on a device. -/
def validate (device : Device) : Report where
  errors := device.violations.map Violation.problem
  warnings := device.remarks

/-- The text of an invalid report, under a line that names the device. -/
def invalidText? (device : Device) : Option String :=
  let report := device.validate
  if report.isValid then none
  else some s!"Device '{device.id}' is invalid:\n{report.text}"

/-- The device keeps every rule. -/
structure Valid (device : Device) : Prop where
  id_notBlank : Text.isBlankText device.id = false
  pages_nonempty : device.pages ≠ []
  ordinals : ∀ (i : Nat) (page : Page), device.pages[i]? = some page → page.ordinal.toNat = i
  pageIds_notBlank : ∀ page ∈ device.pages, Text.isBlankText page.id = false
  pageIds_distinct : (device.pages.map Page.id).Nodup
  widgetIds_distinct : (device.widgets.map Widget.id).Nodup
  widgets_sound : ∀ widget ∈ device.widgets, widget.Sound

end Device
end EpaperLayout
