import EpaperLayout.Layout.Widget
import EpaperLayout.Snippet.Escape

/-!
# Draw calls

The program lines that draw a widget.  Every kind has one call, except the gauge,
which has a frame and a filled bar.  A widget that leaves a setting open draws
with a default.

**Components.** A data point is read from a component whose identifier has ASCII
letters, digits and underscores only and does not begin with a digit.

**Icons.** An icon is a code point of four to six hexadecimal digits, written as
a universal character name, or else a text of its own.
-/

namespace EpaperLayout
namespace Snippet

/-- Font size of a widget without a setting of its own. -/
def defaultFontSize : UInt16 := 20

/-- Format of a value without a setting of its own. -/
def defaultValueFormat : String := "%.1f"

/-- Format of a clock without a setting of its own. -/
def defaultClockFormat : String := "%H:%M"

/-- Colour expression of a widget without a setting of its own. -/
def defaultColor : String := "COLOR_ON"

/-- Component that clocks read. -/
def timeSource : String := "homeassistant_time"

/-- A character of a component identifier in place of the given one. -/
def componentChar (c : Char) : Char :=
  if Text.isIdentifierChar c then c else '_'

/-- The identifier of the component that holds a data point. -/
def componentId (dataPoint : String) : String :=
  let cs := dataPoint.toList.map componentChar
  match cs with
  | [] => "_"
  | c :: _ => if Text.isDigit c then String.ofList ('_' :: cs) else String.ofList cs

/-- The code point that an icon names. -/
def iconCodePoint? (icon : String) : Option Nat :=
  let cs := icon.toList
  if 4 ≤ cs.length && cs.length ≤ 6 then
    match Text.hexadecimal? cs with
    | some n => if n.isValidChar then some n else none
    | none => none
  else none

/-- The string literal of an icon. -/
def iconLiteral (icon : String) : String :=
  match iconCodePoint? icon with
  | some n =>
    String.ofList (['"', '\\', 'U'] ++ (Text.paddedDigits 16 8 n).map Text.upperDigit ++ ['"'])
  | none => stringLiteral icon

/-- The program lines that draw a widget. -/
def drawCalls (widget : Widget) : List String :=
  let style := widget.style
  let x := widget.x.toNat
  let y := widget.y.toNat
  let width := widget.width.toNat
  let height := widget.height.toNat
  let color := (style.color.map Color.drawExpression).getD defaultColor
  let size := (style.fontSize.getD defaultFontSize).toNat
  let source := componentId (widget.dataPoint.getD "")
  match widget.kind with
  | .text =>
    let label := stringLiteral (style.text.getD "")
    [s!"it.print({x}, {y}, id(font_{size}), {color}, {label});"]
  | .value =>
    let format := stringLiteral (style.format.getD defaultValueFormat)
    [s!"it.printf({x}, {y}, id(font_{size}), {color}, {format}, id({source}).state);"]
  | .icon =>
    let glyph := iconLiteral (style.icon.getD "")
    [s!"it.print({x}, {y}, id(icon_font_{size}), {color}, {glyph});"]
  | .gauge =>
    let low := style.gaugeMin.toInt
    let span := style.gaugeMax.toInt - low
    [s!"it.rectangle({x}, {y}, {width}, {height}, {color});",
      s!"it.filled_rectangle({x}, {y}, (int) ({width} * std::clamp((id({source}).state" ++
        s!" - ({low})) / {span}.0f, 0.0f, 1.0f)), {height}, {color});"]
  | .clock =>
    let format := stringLiteral (style.format.getD defaultClockFormat)
    [s!"it.strftime({x}, {y}, id(font_{size}), {color}, {format}, id({timeSource}).now());"]

end Snippet
end EpaperLayout
