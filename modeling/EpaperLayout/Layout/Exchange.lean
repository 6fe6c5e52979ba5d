import EpaperLayout.Json.Shape
import EpaperLayout.Json.Value
import EpaperLayout.Layout.Validation

/-!
# The exchange form of layouts

Layouts are exchanged as JSON texts.  Devices, pages, widgets and styles are
records; a colour is the string of its written form and a widget kind its name.

**Writing.** Fields come in their declared order.  An absent data point and
absent style settings are left out, everything else is always written.

**Reading.** Pages, widgets and styles may be missing and are empty then; an
absent data point or setting may also be written as null.  A style refuses
unknown keys, the other records skip them.
-/

namespace EpaperLayout

open Json

/-- Reads a colour from its written form. -/
def Color.read : Reader Color := fun draft => do
  let text ← readText draft
  match Color.ofHex text with
  | .ok color => return color
  | .error error => throw (.mismatch (.refused error.message))

/-- The shape of a style. -/
def Style.shape : Record Style where
  name := "struct Style"
  closed := true
  blank := {}
  fields := [
    .of "text" false (readOptional readText) fun value style => { style with text := value },
    .of "format" false (readOptional readText) fun value style => { style with format := value },
    .of "icon" false (readOptional readText) fun value style => { style with icon := value },
    .of "font_size" false (readOptional readUInt16) fun value style =>
      { style with fontSize := value },
    .of "color" false (readOptional Color.read) fun value style => { style with color := value },
    .of "min" false (readOptional readInt32) fun value style => { style with min := value },
    .of "max" false (readOptional readInt32) fun value style => { style with max := value }]

/-- Reads a widget kind by its name. -/
def WidgetKind.read : Reader WidgetKind :=
  readVariant (WidgetKind.all.map fun kind => (kind.name, kind))

/-- The shape of a widget. -/
def Widget.shape : Record Widget where
  name := "struct Widget"
  closed := false
  blank := { id := "", kind := .text, x := 0, y := 0, width := 0, height := 0 }
  fields := [
    .of "id" true readText fun value widget => { widget with id := value },
    .of "kind" true WidgetKind.read fun kind widget => { widget with kind },
    .of "dataPoint" false (readOptional readText) fun value widget =>
      { widget with dataPoint := value },
    .of "x" true readUInt32 fun value widget => { widget with x := value },
    .of "y" true readUInt32 fun value widget => { widget with y := value },
    .of "width" true readUInt32 fun value widget => { widget with width := value },
    .of "height" true readUInt32 fun value widget => { widget with height := value },
    .of "style" false Style.shape.read fun value widget => { widget with style := value }]

/-- The shape of a page. -/
def Page.shape : Record Page where
  name := "struct Page"
  closed := false
  blank := { id := "", title := "", ordinal := 0 }
  fields := [
    .of "id" true readText fun value page => { page with id := value },
    .of "title" true readText fun value page => { page with title := value },
    .of "ordinal" true readUInt32 fun value page => { page with ordinal := value },
    .of "widgets" false (readArray Widget.shape.read) fun value page =>
      { page with widgets := value }]

/-- The shape of a device. -/
def Device.shape : Record Device where
  name := "struct Device"
  closed := false
  blank := { id := "", name := "" }
  fields := [
    .of "id" true readText fun value device => { device with id := value },
    .of "name" true readText fun value device => { device with name := value },
    .of "pages" false (readArray Page.shape.read) fun value device =>
      { device with pages := value }]

/-- The exchange form of a style. -/
def Style.toJson (style : Style) : Json :=
  .object <|
    field? "text" (style.text.map .string)
      ++ field? "format" (style.format.map .string)
      ++ field? "icon" (style.icon.map .string)
      ++ field? "font_size" (style.fontSize.map fun size => .int size.toNat)
      ++ field? "color" (style.color.map fun color => .string color.toHex)
      ++ field? "min" (style.min.map fun bound => .int bound.toInt)
      ++ field? "max" (style.max.map fun bound => .int bound.toInt)

/-- The exchange form of a widget. -/
def Widget.toJson (widget : Widget) : Json :=
  .object <|
    [("id", .string widget.id), ("kind", .string widget.kind.name)]
      ++ field? "dataPoint" (widget.dataPoint.map .string)
      ++ [("x", .int widget.x.toNat), ("y", .int widget.y.toNat),
        ("width", .int widget.width.toNat), ("height", .int widget.height.toNat),
        ("style", widget.style.toJson)]

/-- The exchange form of a page. -/
def Page.toJson (page : Page) : Json :=
  .object [("id", .string page.id), ("title", .string page.title),
    ("ordinal", .int page.ordinal.toNat), ("widgets", .array (page.widgets.map Widget.toJson))]

/-- The exchange form of a device. -/
def Device.toJson (device : Device) : Json :=
  .object [("id", .string device.id), ("name", .string device.name),
    ("pages", .array (device.pages.map Page.toJson))]

/-- Reads a device from its exchange form. -/
def Device.ofText (text : String) : Except ReadError Device :=
  readDocument Device.shape.read text

/-- The exchange form of a device as text. -/
def Device.toText (device : Device) : String :=
  device.toJson.pretty

/-- The answer to a validation for programs: the problems, then the warnings. -/
def Report.toJson (report : Report) : Json :=
  let problem (p : Problem) : Json :=
    .object <|
      [("severity", .string "error"), ("kind", .string p.kind.code)]
        ++ field? "page" (p.page.map fun page => .int page.toNat)
        ++ field? "widget" (p.widget.map .string)
        ++ [("message", .string p.message)]
        ++ field? "suggestion" (p.suggestion.map .string)
  let warning (message : String) : Json :=
    .object [("severity", .string "warning"), ("message", .string message)]
  .object [("valid", .bool report.isValid),
    ("errors", .array (report.errors.map problem ++ report.warnings.map warning))]

end EpaperLayout
