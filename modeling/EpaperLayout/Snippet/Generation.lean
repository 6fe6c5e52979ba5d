import EpaperLayout.Snippet.Drawing
import EpaperLayout.Snippet.Outcome

/-!
# Writing snippets

The snippet of a device is a fragment of a configuration document: a banner of
comments, the global variable that holds the number of the page shown, and one
display whose drawing routine dispatches on that variable.  Every page is a
branch; its marker and the markers of its widgets carry all data of the layout,
each widget marker followed by the draw calls of the widget.

Only a device that keeps every rule has a snippet.
-/

namespace EpaperLayout
namespace Snippet

/-- Name of the variable that holds the number of the page shown. -/
def pageVariable : String := "display_page"

/-- Section of a document with the displays. -/
def displaySection : String := "display"

/-- Section of a document with the variables. -/
def globalsSection : String := "globals"

/-- Key of the drawing routine in a display. -/
def lambdaKey : String := "lambda"

/-- The first line of the page dispatch. -/
def dispatchOpening : String :=
  s!"switch (id({pageVariable})) \x7b"

/-- The first line of the branch of a page. -/
def branchOpening (ordinal : UInt32) : String :=
  s!"case {ordinal.toNat}: \x7b"

/-- A text behind the given number of blanks. -/
def indented (blanks : Nat) (text : String) : String :=
  String.ofList (List.replicate blanks ' ' ++ text.toList)

/-- The lines that name the device and tell what to do with the snippet. -/
def bannerLines (device : Device) : List String :=
  [s!"# Pagecraft display snippet for " ++ stringLiteral device.name
      ++ s!" ({escape device.id})",
    "# Merge into the device configuration next to its wifi/api sections.",
    s!"# Set id({pageVariable}) from a button or script to change pages.",
    ""]

/-- The lines that declare the page variable. -/
def globalsLines : List String :=
  [s!"{globalsSection}:",
    s!"  - id: {pageVariable}",
    "    type: int",
    "    restore_value: true",
    "    initial_value: \"0\"",
    ""]

/-- The lines of the display up to its drawing routine. -/
def displayLines : List String :=
  [s!"{displaySection}:",
    "  - platform: waveshare_epaper",
    "    id: epaper_display",
    "    model: 7.50inv2",
    "    update_interval: never",
    s!"    {lambdaKey}: |-"]

/-- The program lines of a widget: its marker and its draw calls. -/
def widgetLines (widget : Widget) : List String :=
  widgetMarker widget :: drawCalls widget

/-- The program lines of a page: its branch. -/
def pageLines (page : Page) : List String :=
  [indented 2 (branchOpening page.ordinal)]
    ++ (pageMarker page :: page.widgets.flatMap widgetLines ++ ["break;"]).map (indented 4)
    ++ [indented 2 "\x7d"]

/-- The lines of the drawing routine of a device. -/
def routineLines (device : Device) : List String :=
  [deviceMarker device, dispatchOpening] ++ device.pages.flatMap pageLines ++ ["\x7d"]

/-- Indentation of the drawing routine in the document. -/
def routineIndent : Nat := 6

/-- The lines of the snippet of a device. -/
def lines (device : Device) : List String :=
  bannerLines device ++ globalsLines ++ displayLines
    ++ (routineLines device).map (indented routineIndent)

/-- Lines put together, each with a line feed at its end. -/
def joinLines (lines : List String) : String :=
  String.join (lines.map fun line => line ++ "\n")

/-- The snippet of a device that keeps every rule. -/
def generate (device : Device) : Except SnippetError String :=
  let report := device.validate
  if report.isValid then .ok (joinLines (lines device)) else .error (.invalidLayout report)

end Snippet
end EpaperLayout
