import EpaperLayout.Layout.Widget

/-!
# Pages

A page is one screen of widgets, drawn in the order of the list.  Widgets are
looked up and removed by their identifier; of several with the same one, the
first counts.
-/

namespace EpaperLayout

/-- One screen of widgets. -/
structure Page where
  /-- Identifier, unique within the device. -/
  id : String
  title : String
  /-- Position among the pages of the device, from zero. -/
  ordinal : UInt32
  /-- The widgets in drawing order. -/
  widgets : List Widget := []
deriving DecidableEq, Repr, Inhabited

namespace Page

/-- Adds a widget that is drawn last. -/
def addWidget (page : Page) (widget : Widget) : Page :=
  { page with widgets := page.widgets ++ [widget] }

/-- The first widget with the identifier. -/
def widget? (page : Page) (id : String) : Option Widget :=
  page.widgets.find? fun widget => widget.id == id

/-- The page without the first widget that has the identifier. -/
def removeWidget (page : Page) (id : String) : Page :=
  { page with widgets := page.widgets.eraseP fun widget => widget.id == id }

/-- Clamps every widget of the page to the canvas. -/
def clampWidgets (page : Page) : Page :=
  { page with widgets := page.widgets.map Widget.clamp }

end Page
end EpaperLayout
