import EpaperLayout.Snippet.PageReading
import EpaperLayout.Text.Lines
import EpaperLayout.Yaml.Document

/-!
# Reading snippets

A snippet is read in two steps.  The text is read as a document, and the layout
is read from the drawing routines of its displays: the first routine with a page
dispatch counts.

**Line numbers.** Warnings name lines of the document.  A routine that stands in
a literal block has a line of the document for each of its own, and its place is
found by its first line that is not blank; the lines of any other routine count
from one.

**Identity.** The identifier of the device comes from the caller.  A device marker
outside the branches gives the name; without one the name is the identifier.

**Tolerance.** What cannot be used is skipped with a warning.  A snippet is only
refused if it has no page dispatch with a page at all, or if the identifier given
is blank.
-/

namespace EpaperLayout
namespace Snippet

/-- The sections of a document that belong to the base configuration. -/
def foreignSections : List String :=
  ["wifi", "api", "ota", "logger", "captive_portal", "web_server"]

/-- The message for a document whose root has no sections. -/
def rootMessage : String :=
  "document root must be a mapping of configuration sections"

/-- Reads a text as a document with sections. -/
def loadDocument (text : String) : Except SnippetError Yaml.Value :=
  match Yaml.Value.ofText text with
  | .error fault => .error (.invalidYaml fault.message fault.line? fault.column?)
  | .ok document =>
    if document.entries?.isSome then .ok document
    else .error (.invalidYaml rootMessage none none)

/-- The warnings about sections that are ignored. -/
def sectionWarnings (document : Yaml.Value) : List Warning :=
  (foreignSections.filter fun name => (document.get? name).isSome).map fun name =>
    { oddity := .foreignSection name }

/-- The entries of the display section. -/
def displayEntries (document : Yaml.Value) : Except SnippetError (List Yaml.Value) :=
  match document.get? displaySection with
  | none => .error (.unrecognized s!"document has no '{displaySection}' section")
  | some display =>
    match display.untagged with
    | .sequence items => .ok items
    | .mapping entries => .ok [.mapping entries]
    | _ => .error (.unrecognized s!"'{displaySection}' section is neither a list nor a mapping")

/-- The texts of all drawing routines in a document. -/
def displayLambdas (document : Yaml.Value) : Except SnippetError (List String) := do
  let entries ← displayEntries document
  let lambdas := entries.filterMap fun entry => (entry.get? lambdaKey).bind Yaml.Value.text?
  if lambdas.isEmpty then
    throw (.unrecognized s!"no '{displaySection}' entry has a '{lambdaKey}'")
  return lambdas

/-- The text without a word at its start, if it begins with it. -/
def dropWord? (word : String) (cs : List Char) : Option (List Char) :=
  if word.toList.isPrefixOf cs then some (cs.drop word.length) else none

/-- The text without the dashes of list items at its start. -/
def dropDashes : List Char → List Char
  | '-' :: ' ' :: rest => dropDashes rest
  | cs => cs

/-- Whether a line of a document begins a routine in a literal block. -/
def opensLiteralRoutine (line : List Char) : Bool :=
  let start := Text.trimLeft (dropDashes (Text.trimLeft line))
  match (dropWord? lambdaKey start).bind (dropWord? ":") with
  | none => false
  | some rest =>
    let value := Text.trimLeft rest
    let untagged := match dropWord? "!lambda" value with
      | some after => Text.trimLeft after
      | none => value
    untagged.head? = some '|'

/-- The number of the line after the first, among lines counted from `index`, that opens a routine
whose line number `skip` has the text `first`. -/
def routineLineFrom? (skip : Nat) (first : List Char) (index : Nat) :
    List (List Char) → Option Nat
  | [] => none
  | line :: rest =>
    if opensLiteralRoutine line && (rest[skip]?).any fun other => Text.trim other = first then
      some (index + 2)
    else routineLineFrom? skip first (index + 1) rest

/-- The number of the line of a document on which a routine begins. -/
def firstLine (text lambda : String) : Nat :=
  let lines := Text.lines lambda.toList
  let skip := (lines.takeWhile fun line => (Text.trim line).isEmpty).length
  match lines[skip]? with
  | none => 1
  | some line =>
    (routineLineFrom? skip (Text.trim line) 0 (Text.lines text.toList)).getD 1

/-- A drawing routine with a page dispatch. -/
structure Routine where
  lambda : Lambda
  dispatch : Dispatch
deriving DecidableEq, Repr

/-- The first of the routines of a document that has a page dispatch. -/
def findRoutine? (text : String) (lambdas : List String) : Option Routine :=
  lambdas.findSome? fun source =>
    let lambda := (Lambda.ofText source).startingAt (firstLine text source)
    lambda.dispatch?.map fun dispatch => { lambda, dispatch }

/-- A layout that has been read. -/
structure Imported where
  device : Device
  warnings : List Warning
deriving DecidableEq, Repr

/-- The warning that a snippet was written for another device. -/
def otherDevice? (identity : Option DeviceIdentity) (deviceId : String) : Option Warning := do
  let exported ← identity.bind DeviceIdentity.id
  if exported = deviceId then none else some { oddity := .otherDevice exported deviceId }

namespace Routine

/-- The number of the line on which the dispatch begins. -/
def dispatchLine (routine : Routine) : Nat :=
  routine.lambda.lineOf routine.dispatch.start

/-- The place of the brace that closes the dispatch. -/
def closing (routine : Routine) : Except SnippetError Nat :=
  match routine.lambda.matchingBrace? routine.dispatch.opening with
  | some closing => .ok closing
  | none => .error (.unrecognized s!"page dispatch on line {routine.dispatchLine} is never closed")

/-- The branches of the dispatch, which must have a page. -/
def branches (routine : Routine) (closing : Nat) : Except SnippetError (List Branch) :=
  let branches := routine.lambda.branches routine.dispatch closing
  if branches.any fun branch => branch.label.digits.isSome then .ok branches
  else .error (.noPages routine.dispatchLine)

/-- Reads the layout of the device with the identifier, after some warnings. -/
def read (routine : Routine) (earlier : List Warning) (deviceId : String) :
    Except SnippetError Imported := do
  let closing ← routine.closing
  let branches ← routine.branches closing
  let pages := PageReading.ofBranches routine.lambda branches
  let firstLabel := (branches.head?.map fun branch => branch.label.start).getD closing
  let outside := IdentityReading.ofLambda routine.lambda firstLabel (closing + 1)
  let name := (outside.identity.bind DeviceIdentity.name).getD deviceId
  let device : Device := { id := deviceId, name, pages := pages.pages }
  let report := device.validate
  if !report.isValid then throw (.invalidLayout report)
  return { device, warnings := earlier ++ pages.warnings ++ outside.warnings
    ++ (otherDevice? outside.identity deviceId).toList }

end Routine

/-- Reads the layout of a document whose text is given. -/
def importDocument (text : String) (document : Yaml.Value) (deviceId : String) :
    Except SnippetError Imported := do
  let lambdas ← displayLambdas document
  match findRoutine? text lambdas with
  | none =>
    throw (.unrecognized
      s!"no display lambda contains a page dispatch on id({pageVariable})")
  | some routine => routine.read (sectionWarnings document) deviceId

/-- Reads the layout of the device with the identifier from a snippet. -/
def importSnippet (text deviceId : String) : Except SnippetError Imported := do
  importDocument text (← loadDocument text) deviceId

end Snippet
end EpaperLayout
