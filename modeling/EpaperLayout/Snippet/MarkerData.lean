import EpaperLayout.Layout.Device
import EpaperLayout.Snippet.Marker

/-!
# Layout data in markers

Devices, pages and widgets as the fields of markers.

**Writing.** Free text and colours are written between quotes, names and numbers
bare.  The fields of a widget come in a fixed order: identifier, kind, data point,
position, size, then the style settings in canonical order.

**Reading.** A reader takes the fields that it knows out of the marker, one after
the other, so they may come in any order.  A missing field and a value of the
wrong form are errors; so is, at last, a field that is left over.
-/

namespace EpaperLayout
namespace Snippet

/-- Why the fields of a marker do not describe what it should. -/
inductive DataError where
  | missingField (tag : MarkerTag) (key : String)
  | invalidNumber (key raw : String)
  | unknownKind (unknown : UnknownName)
  | invalidColor (key : String) (error : Color.ReadError)
  | blankPageId
  | unknownField (tag : MarkerTag) (key : String)
deriving DecidableEq, Repr

/-- The message for fields that do not describe what they should. -/
def DataError.message : DataError → String
  | .missingField tag key => s!"{tag.text} marker is missing field '{key}'"
  | .invalidNumber key raw => s!"field '{key}' is not a valid number: {Text.quoted raw}"
  | .unknownKind unknown => unknown.message
  | .invalidColor key error => s!"field '{key}': {error.message}"
  | .blankPageId => "@page marker has an empty id"
  | .unknownField tag key => s!"{tag.text} marker has unknown field '{key}'"

namespace Marker

/-- A reader of fields, which takes those that it reads out of the marker. -/
abbrev Reader :=
  StateT Marker (Except DataError)

/-- The marker without the first field that has the key. -/
def without (marker : Marker) (key : String) : Marker :=
  { marker with fields := marker.fields.eraseP fun field => field.1 == key }

/-- Takes out the value of a field that may be there. -/
def take? (key : String) : Reader (Option String) := fun marker =>
  .ok (marker.get? key, marker.without key)

/-- The value of the field with the key, if there was one. -/
def present (key : String) : Option String → Reader String
  | some value => return value
  | none => do throw (.missingField (← get).tag key)

/-- Takes out the value of a field that must be there. -/
def require (key : String) : Reader String := do
  present key (← take? key)

/-- A value read as a number. -/
def numberOf {α : Type} (read? : List Char → Option α) (key raw : String) :
    Except DataError α :=
  match read? raw.toList with
  | some value => .ok value
  | none => .error (.invalidNumber key raw)

/-- Takes out the number in a field that must be there. -/
def requireNumber (key : String) : Reader UInt32 := do
  numberOf Text.uint32? key (← require key)

/-- Nothing, if no field is left. -/
def finish : Reader Unit := fun marker =>
  match marker.fields with
  | [] => .ok ((), marker)
  | field :: _ => .error (.unknownField marker.tag field.1)

end Marker

/-- What a device marker says. -/
structure DeviceIdentity where
  id : Option String := none
  name : Option String := none
deriving DecidableEq, Repr

/-- What a page marker says. -/
structure PageIdentity where
  id : String
  title : String
deriving DecidableEq, Repr

namespace Marker

/-- Reads what a device marker says. -/
def readDevice : Reader DeviceIdentity := do
  let id ← take? "id"
  let name ← take? "name"
  finish
  return { id, name }

/-- What a device marker says. -/
def device (marker : Marker) : Except DataError DeviceIdentity :=
  readDevice.run' marker

/-- Reads what a page marker says. -/
def readPage : Reader PageIdentity := do
  let id ← require "id"
  if Text.isBlankText id then throw .blankPageId
  let title ← take? "title"
  finish
  return { id, title := title.getD "" }

/-- What a page marker says. -/
def page (marker : Marker) : Except DataError PageIdentity :=
  readPage.run' marker

/-- Reads the value of a style key and puts it into a style. -/
def readSetting (style : Style) (key : StyleKey) (raw : String) : Except DataError Style :=
  match key with
  | .text => .ok { style with text := some raw }
  | .format => .ok { style with format := some raw }
  | .icon => .ok { style with icon := some raw }
  | .fontSize =>
    (numberOf Text.uint16? key.name raw).map fun size => { style with fontSize := some size }
  | .color =>
    match Color.ofHex raw with
    | .ok color => .ok { style with color := some color }
    | .error error => .error (.invalidColor key.name error)
  | .min => (numberOf Text.int32? key.name raw).map fun bound => { style with min := some bound }
  | .max => (numberOf Text.int32? key.name raw).map fun bound => { style with max := some bound }

/-- The style with the value of a style key, if there is one. -/
def withSetting (style : Style) (key : StyleKey) : Option String → Except DataError Style
  | some raw => readSetting style key raw
  | none => .ok style

/-- Reads the given style keys, in their order, as far as there are fields for them. -/
def readSettings (style : Style) : List StyleKey → Reader Style
  | [] => return style
  | key :: rest => do readSettings (← withSetting style key (← take? key.name)) rest

/-- A value read as a widget kind. -/
def kindOf (raw : String) : Except DataError WidgetKind :=
  match WidgetKind.ofName raw with
  | .ok kind => .ok kind
  | .error unknown => .error (.unknownKind unknown)

/-- Takes out the widget kind in a field that must be there. -/
def requireKind : Reader WidgetKind := do
  kindOf (← require "kind")

/-- Reads what a widget marker says. -/
def readWidget : Reader Widget := do
  let id ← require "id"
  let kind ← requireKind
  let dataPoint ← take? "data_point"
  let x ← requireNumber "x"
  let y ← requireNumber "y"
  let width ← requireNumber "width"
  let height ← requireNumber "height"
  let style ← readSettings {} StyleKey.all
  finish
  return { id, kind, dataPoint, x, y, width, height, style }

/-- What a widget marker says. -/
def widget (marker : Marker) : Except DataError Widget :=
  readWidget.run' marker

end Marker

/-- A number as a bare field. -/
def numberField (key : String) (value : Int) : WrittenField :=
  .bare key (toString value)

/-- The field for the setting of a style key, if there is one. -/
def settingField? (style : Style) : StyleKey → Option WrittenField
  | .text => style.text.map (.escaped StyleKey.text.name)
  | .format => style.format.map (.escaped StyleKey.format.name)
  | .icon => style.icon.map (.escaped StyleKey.icon.name)
  | .fontSize => style.fontSize.map fun size => numberField StyleKey.fontSize.name size.toNat
  | .color => style.color.map fun color => .escaped StyleKey.color.name color.toHex
  | .min => style.min.map fun bound => numberField StyleKey.min.name bound.toInt
  | .max => style.max.map fun bound => numberField StyleKey.max.name bound.toInt

/-- The fields of a widget. -/
def widgetFields (widget : Widget) : List WrittenField :=
  [.escaped "id" widget.id, .bare "kind" widget.kind.name]
    ++ (widget.dataPoint.map (.escaped "data_point")).toList
    ++ [numberField "x" widget.x.toNat, numberField "y" widget.y.toNat,
      numberField "width" widget.width.toNat, numberField "height" widget.height.toNat]
    ++ StyleKey.all.filterMap (settingField? widget.style)

/-- The marker line of a device. -/
def deviceMarker (device : Device) : String :=
  markerLine .device [.escaped "id" device.id, .escaped "name" device.name]

/-- The marker line of a page. -/
def pageMarker (page : Page) : String :=
  markerLine .page [.escaped "id" page.id, .escaped "title" page.title]

/-- The marker line of a widget. -/
def widgetMarker (widget : Widget) : String :=
  markerLine .widget (widgetFields widget)

end Snippet
end EpaperLayout
