import EpaperLayout.Layout.Page

/-!
# Devices and their editing

A device is an ordered list of pages for one display.  In a well-kept device the
ordinal of every page is its position in the list; `renumber` restores that, and
the operations that move or remove a page end with it.

**Operations.** Pages are found by their ordinal, and of several with the same
one the first counts.  An operation that may not be possible yields its answer and
the device that it leaves.
-/

namespace EpaperLayout

/-- A display with its pages. -/
structure Device where
  id : String
  name : String
  /-- The pages in display order. -/
  pages : List Page := []
deriving DecidableEq, Repr, Inhabited

/-- Why a device cannot be made or changed as asked. -/
inductive EditError where
  /-- The identifier of the device is blank. -/
  | blankId
  /-- The ordinal of the new page is not the next one. -/
  | ordinalOutOfSequence (expected : Nat) (found : UInt32)
  /-- A page has no place with the given number. -/
  | moveOutOfRange (source target count : Nat)
deriving DecidableEq, Repr

/-- The message for an operation that cannot be done. -/
def EditError.message : EditError → String
  | .blankId => "Device ID cannot be empty"
  | .ordinalOutOfSequence expected found =>
    s!"Page ordinals must be sequential. Expected page {expected}, got {found.toNat}"
  | .moveOutOfRange source target count =>
    s!"Page move {source} -> {target} out of range (device has {count} pages)"

namespace Device

/-- A device without pages. -/
def create (id name : String) : Except EditError Device :=
  if Text.isBlankText id then .error .blankId
  else .ok { id, name }

/-- The pages with their positions as ordinals, counted from `start`. -/
def renumberFrom (start : Nat) : List Page → List Page
  | [] => []
  | page :: rest =>
    { page with ordinal := UInt32.ofNat start } :: renumberFrom (start + 1) rest

/-- Makes the position of every page its ordinal. -/
def renumber (device : Device) : Device :=
  { device with pages := renumberFrom 0 device.pages }

/-- Adds a page at the end, if its ordinal is the next one. -/
def addPage (device : Device) (page : Page) : Except EditError Unit × Device :=
  if page.ordinal.toNat = device.pages.length then
    (.ok (), { device with pages := device.pages ++ [page] })
  else (.error (.ordinalOutOfSequence device.pages.length page.ordinal), device)

/-- Adds a page at the end without looking at its ordinal. -/
def pushPage (device : Device) (page : Page) : Device :=
  { device with pages := device.pages ++ [page] }

/-- The first page with the ordinal. -/
def page? (device : Device) (ordinal : UInt32) : Option Page :=
  device.pages.find? fun page => page.ordinal == ordinal

/-- Changes the first page that has the ordinal. -/
def modifyFirst (ordinal : UInt32) (change : Page → Page) : List Page → List Page
  | [] => []
  | page :: rest =>
    if page.ordinal = ordinal then change page :: rest
    else page :: modifyFirst ordinal change rest

/-- Changes the first page that has the ordinal. -/
def modifyPage (device : Device) (ordinal : UInt32) (change : Page → Page) : Device :=
  { device with pages := modifyFirst ordinal change device.pages }

/-- Removes the first page that has the ordinal and renumbers the others; the answer is the removed
page. -/
def removePage (device : Device) (ordinal : UInt32) : Option Page × Device :=
  match device.page? ordinal with
  | none => (none, device)
  | some removed =>
    let remaining := device.pages.eraseP fun page => page.ordinal == ordinal
    (some removed, renumber { device with pages := remaining })

/-- Moves the page at the position `source` to the position `target` and renumbers all pages. -/
def movePage (device : Device) (source target : Nat) : Except EditError Unit × Device :=
  match device.pages[source]? with
  | some moved =>
    if target < device.pages.length then
      let others := device.pages.eraseIdx source
      (.ok (), renumber { device with pages := others.insertIdx target moved })
    else (.error (.moveOutOfRange source target device.pages.length), device)
  | none => (.error (.moveOutOfRange source target device.pages.length), device)

/-- All widgets, page by page. -/
def widgets (device : Device) : List Widget :=
  device.pages.flatMap Page.widgets

/-- Number of widgets on all pages. -/
def widgetCount (device : Device) : Nat :=
  device.widgets.length

end Device
end EpaperLayout
