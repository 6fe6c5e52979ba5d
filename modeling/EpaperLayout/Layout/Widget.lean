import EpaperLayout.Layout.Style

/-!
# Widgets on the canvas

A widget is one positioned visual element of a page.  Positions and sizes are
counted in pixels of the canvas and are unsigned 32-bit numbers, so the far edges
of a widget may lie beyond the largest such number; they are cut off there, which
keeps every comparison with the canvas exact.

**Clamping.** `Widget.clamp` shrinks a widget to a size the canvas can hold and
then moves it so that it lies on the canvas.
-/

namespace EpaperLayout

/-- Width of the canvas in pixels. -/
def canvasWidth : UInt32 := 800

/-- Height of the canvas in pixels. -/
def canvasHeight : UInt32 := 480

/-- The sum of two numbers, cut off at the largest number of the type. -/
def saturatingAdd (a b : UInt32) : UInt32 :=
  UInt32.ofNat (Nat.min (a.toNat + b.toNat) (UInt32.size - 1))

/-- What a widget draws. -/
inductive WidgetKind where
  /-- A fixed label. -/
  | text
  /-- The value of a data point. -/
  | value
  /-- A glyph. -/
  | icon
  /-- A horizontal bar for the value of a data point. -/
  | gauge
  /-- The current time. -/
  | clock
deriving DecidableEq, Repr, Inhabited

namespace WidgetKind

/-- All kinds. -/
def all : List WidgetKind :=
  [.text, .value, .icon, .gauge, .clock]

/-- The written name of a kind. -/
def name : WidgetKind → String
  | .text => "text"
  | .value => "value"
  | .icon => "icon"
  | .gauge => "gauge"
  | .clock => "clock"

/-- The kind with the given name. -/
def ofName (s : String) : Except UnknownName WidgetKind :=
  match all.find? fun kind => kind.name == s with
  | some kind => .ok kind
  | none => .error { noun := "widget kind", name := s }

/-- The style keys that widgets of the kind may have. -/
def allowedKeys : WidgetKind → List StyleKey
  | .text => [.text, .fontSize, .color]
  | .value => [.format, .fontSize, .color]
  | .clock => [.format, .fontSize, .color]
  | .icon => [.icon, .fontSize, .color]
  | .gauge => [.min, .max, .color]

/-- Whether widgets of the kind may have the style key. -/
def allows (kind : WidgetKind) (key : StyleKey) : Bool :=
  kind.allowedKeys.contains key

/-- Whether widgets of the kind show a data point. -/
def requiresDataPoint : WidgetKind → Bool
  | .value => true
  | .gauge => true
  | _ => false

/-- Every kind is listed. -/
theorem mem_all (kind : WidgetKind) : kind ∈ all := by
  cases kind <;> decide

/-- Every kind is found by its name. -/
theorem ofName_name (kind : WidgetKind) : ofName kind.name = .ok kind := by
  cases kind <;> rfl

end WidgetKind

/-- One positioned visual element. -/
structure Widget where
  /-- Identifier, unique within the device. -/
  id : String
  kind : WidgetKind
  /-- The data point that the widget shows. -/
  dataPoint : Option String := none
  /-- Left edge. -/
  x : UInt32
  /-- Top edge. -/
  y : UInt32
  width : UInt32
  height : UInt32
  style : Style := {}
deriving DecidableEq, Repr, Inhabited

namespace Widget

/-- The column after the last one of the widget. -/
def right (widget : Widget) : UInt32 :=
  saturatingAdd widget.x widget.width

/-- The row after the last one of the widget. -/
def bottom (widget : Widget) : UInt32 :=
  saturatingAdd widget.y widget.height

/-- Whether the widget lies on the canvas with its whole area. -/
def fitsCanvas (widget : Widget) : Bool :=
  widget.right ≤ canvasWidth && widget.bottom ≤ canvasHeight

/-- The nearest size between one pixel and the whole extent. -/
def clampSize (size extent : UInt32) : UInt32 :=
  if size < 1 then 1 else if extent < size then extent else size

/-- The nearest start at which an element of the size still lies within the extent. -/
def clampStart (start size extent : UInt32) : UInt32 :=
  if start ≤ extent - size then start else extent - size

/-- Shrinks and moves the widget so that it lies on the canvas. -/
def clamp (widget : Widget) : Widget :=
  let width := clampSize widget.width canvasWidth
  let height := clampSize widget.height canvasHeight
  { widget with
    width
    height
    x := clampStart widget.x width canvasWidth
    y := clampStart widget.y height canvasHeight }

end Widget
end EpaperLayout
