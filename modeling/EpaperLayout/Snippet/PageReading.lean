import EpaperLayout.Snippet.Dispatch
import EpaperLayout.Snippet.Outcome

/-!
# Pages from branches

The pages of a device are read from the branches of a dispatch, one page from
every branch with a page label, in the order of the text and whatever the labels
say.  The markers among the line comments of a branch hold the data of its page.

**Page markers.** The first page marker that can be read counts.  A page without
one is named after its ordinal.  An identifier that an earlier page has gets the
first free number from two on.

**Widget markers.** A widget is taken if its marker can be read, it has no flaws
and no widget before it has the same identifier.

Every marker that is not used leads to a warning, except that the markers in a
branch for all other pages share one.
-/

namespace EpaperLayout
namespace Snippet

/-- The line comments of a routine that are markers, well-formed or not, with their offsets. -/
def markersOf (comments : List LineComment) : List (Nat × Except FieldError Marker) :=
  comments.filterMap fun comment =>
    (Marker.ofComment comment.body).map fun marker => (comment.offset, marker)

/-- A warning about something at an offset. -/
def Lambda.warning (lambda : Lambda) (offset : Nat) (oddity : Oddity) : Warning where
  line := some (lambda.lineOf offset)
  oddity := oddity

/-- What has been read of a branch. -/
structure BranchContents where
  identity : Option PageIdentity := none
  widgets : List Widget := []
  /-- What was odd, with its offsets. -/
  oddities : List (Nat × Oddity) := []
deriving DecidableEq, Repr

namespace BranchContents

/-- Notes that something is odd. -/
def note (contents : BranchContents) (offset : Nat) (oddity : Oddity) : BranchContents :=
  { contents with oddities := contents.oddities ++ [(offset, oddity)] }

/-- Takes a page marker. -/
def takePage (contents : BranchContents) (offset : Nat) (marker : Marker) : BranchContents :=
  if contents.identity.isSome then contents.note offset .extraPage
  else
    match marker.page with
    | .ok identity => { contents with identity := some identity }
    | .error error => contents.note offset (.malformedData .page error)

/-- Takes a widget marker; `used` holds the identifiers of the widgets on earlier pages. -/
def takeWidget (used : List String) (contents : BranchContents) (offset : Nat)
    (marker : Marker) : BranchContents :=
  match marker.widget with
  | .error error => contents.note offset (.malformedData .widget error)
  | .ok widget =>
    if !widget.problems.isEmpty then
      contents.note offset (.invalidWidget widget.id widget.problems)
    else if used.contains widget.id || (contents.widgets.map Widget.id).contains widget.id then
      contents.note offset (.duplicateWidget widget.id)
    else { contents with widgets := contents.widgets ++ [widget] }

/-- Takes a marker. -/
def take (used : List String) (contents : BranchContents)
    (place : Nat × Except FieldError Marker) : BranchContents :=
  match place.2 with
  | .error error => contents.note place.1 (.malformedMarker error)
  | .ok marker =>
    match marker.tag with
    | .device => contents.note place.1 .deviceInBranch
    | .page => contents.takePage place.1 marker
    | .widget => contents.takeWidget used place.1 marker

/-- Takes all markers of a branch. -/
def ofMarkers (used : List String) (markers : List (Nat × Except FieldError Marker)) :
    BranchContents :=
  markers.foldl (take used) {}

end BranchContents

/-- The first of the identifiers `id_n` with `n` from `number` on that is not used. -/
def freeIdFrom (used : List String) (id : String) : (tries number : Nat) → String
  | 0, number => s!"{id}_{number}"
  | tries + 1, number =>
    if used.contains s!"{id}_{number}" then freeIdFrom used id tries (number + 1)
    else s!"{id}_{number}"

/-- The identifier itself or, if it is used, with the first free number from two on. -/
def freeId (used : List String) (id : String) : String :=
  if used.contains id then freeIdFrom used id used.length 2 else id

/-- Pages that have been read, and the warnings about them. -/
structure PageReading where
  pages : List Page := []
  warnings : List Warning := []
deriving DecidableEq, Repr

namespace PageReading

/-- The identifiers of the pages. -/
def pageIds (reading : PageReading) : List String :=
  reading.pages.map Page.id

/-- The identifiers of the widgets. -/
def widgetIds (reading : PageReading) : List String :=
  (reading.pages.flatMap Page.widgets).map Widget.id

/-- What is odd about the number of a label, if its page gets the ordinal. -/
def labelOddity? (digits : List Char) (ordinal : UInt32) : Option Oddity :=
  match Text.uint32? digits with
  | some number => if number = ordinal then none else some (.renumbered number ordinal)
  | none => some (.labelOutOfRange (String.ofList digits) ordinal)

/-- The identity of a page without a page marker. -/
def defaultIdentity (ordinal : UInt32) : PageIdentity where
  id := s!"page_{ordinal.toNat}"
  title := s!"Page {ordinal.toNat + 1}"

/-- Reads the page of a branch with the given number and markers. -/
def addPage (lambda : Lambda) (reading : PageReading) (branch : Branch) (digits : List Char)
    (markers : List (Nat × Except FieldError Marker)) : PageReading :=
  let start := branch.label.start
  if UInt32.size ≤ reading.pages.length then
    { reading with warnings := reading.warnings ++ [lambda.warning start .tooManyPages] }
  else
    let ordinal := UInt32.ofNat reading.pages.length
    let contents := BranchContents.ofMarkers reading.widgetIds markers
    let identity := contents.identity.getD (defaultIdentity ordinal)
    let id := freeId reading.pageIds identity.id
    let before := (labelOddity? digits ordinal).toList
    let after := (if contents.identity.isNone then [.missingPage ordinal] else [])
      ++ if id = identity.id then [] else [.renamedPage identity.id id]
    { pages := reading.pages ++
        [{ id, title := identity.title, ordinal, widgets := contents.widgets }]
      warnings := reading.warnings ++ before.map (lambda.warning start)
        ++ contents.oddities.map (fun odd => lambda.warning odd.1 odd.2)
        ++ after.map (lambda.warning start) }

/-- Reads a branch. -/
def addBranch (lambda : Lambda) (reading : PageReading) (branch : Branch) : PageReading :=
  let markers := markersOf (lambda.commentsIn branch.label.stop branch.stop)
  match branch.label.digits with
  | some digits => reading.addPage lambda branch digits markers
  | none =>
    if markers.isEmpty then reading
    else
      { reading with
        warnings := reading.warnings ++ [lambda.warning branch.label.start .markersInDefault] }

/-- Reads all branches. -/
def ofBranches (lambda : Lambda) (branches : List Branch) : PageReading :=
  branches.foldl (addBranch lambda) {}

end PageReading

/-- The device identity of a routine, and what was odd about the markers outside its branches. -/
structure IdentityReading where
  identity : Option DeviceIdentity := none
  warnings : List Warning := []
deriving DecidableEq, Repr

namespace IdentityReading

/-- Adds a warning. -/
def warn (reading : IdentityReading) (warning : Warning) : IdentityReading :=
  { reading with warnings := reading.warnings ++ [warning] }

/-- Takes a marker; the first device marker that can be read counts. -/
def take (lambda : Lambda) (reading : IdentityReading)
    (place : Nat × Except FieldError Marker) : IdentityReading :=
  let odd (oddity : Oddity) := reading.warn (lambda.warning place.1 oddity)
  match place.2 with
  | .error error => odd (.malformedMarker error)
  | .ok marker =>
    if marker.tag ≠ .device then odd (.outsideBranch marker.tag)
    else if reading.identity.isSome then odd .extraDevice
    else
      match marker.device with
      | .ok identity => { reading with identity := some identity }
      | .error error => odd (.malformedData .device error)

/-- Takes all markers of a routine outside the range of its branches. -/
def ofLambda (lambda : Lambda) (start stop : Nat) : IdentityReading :=
  (markersOf (lambda.commentsOutside start stop)).foldl (take lambda) {}

end IdentityReading
end Snippet
end EpaperLayout
