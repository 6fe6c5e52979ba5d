import EpaperLayout.Command.Outcome
import EpaperLayout.Layout.Storage
import EpaperLayout.Settings.Storage
import EpaperLayout.Snippet.Import

/-!
# The command that reads snippets

A snippet is read and its layout is written to the output or to a file.  The
identifier of the device is given as an argument or else in the settings; a blank
one counts as missing.

**Order.** The warnings are noted first, unless the output is for programs.  In
strict mode a snippet with warnings is rejected before any file is written.
-/

namespace EpaperLayout
namespace Command

/-- The arguments of the command. -/
structure ImportArgs where
  /-- The file with the snippet. -/
  snippet : String
  deviceId : Option String := none
  /-- The file or directory for the layout. -/
  out : Option String := none
  json : Bool := false
  strict : Bool := false
deriving DecidableEq, Repr

/-- The message for a missing device identifier. -/
def missingDeviceId : String :=
  "Device id not specified. Use --device-id or set import.device_id in the config file"

/-- The identifier of the device. -/
def importDeviceId? (settings : Settings) (args : ImportArgs) : Option String :=
  (args.deviceId.or settings.deviceId).filter fun id => !Text.isBlankText id

/-- The failure for a snippet that is refused. -/
def snippetFailure (error : Snippet.SnippetError) : Failure where
  kind := if error.isInputError then .rejected else .brokenOff
  message := s!"Import failed [{error.code}]: {error.message}"

/-- The notes about warnings. -/
def warningNotes (warnings : List Snippet.Warning) : String :=
  String.join (warnings.map fun warning => line s!"⚠ {warning.text}")

/-- The layout and the warnings for programs. -/
def importedJson (imported : Snippet.Imported) : Json :=
  let warning (w : Snippet.Warning) : Json :=
    .object (Json.field? "line" (w.line.map fun number => .int number)
      ++ [("message", .string w.message)])
  .object [("device", imported.device.toJson), ("warnings", .array (imported.warnings.map warning))]

/-- The message for a layout that was written to a file. -/
def importedText (imported : Snippet.Imported) (path : String) : String :=
  let device := imported.device
  let pages := device.pages.length
  let widgets := device.widgetCount
  let warnings := imported.warnings.length
  line (s!"✓ Imported '{device.name}' ({pages} pages, {widgets} widgets, " ++
    s!"{warnings} warnings)") ++ line s!"  {path}"

/-- Whether a snippet with warnings is rejected. -/
def isStrict (settings : Settings) (args : ImportArgs) : Bool :=
  args.strict || settings.strict

/-- Writes a layout that was read. -/
def writeImported (args : ImportArgs) (imported : Snippet.Imported) (notes : String)
    (tree : Disk.Tree) : Outcome :=
  match args.out with
  | none =>
    let json := if args.json then importedJson imported else imported.device.toJson
    { tree, output := line json.pretty, notes }
  | some target =>
    let path := tree.outputPath target imported.device
    let saved := tree.saveDevice imported.device path
    match saved.error with
    | some error =>
      { Outcome.failed saved.tree .brokenOff s!"Failed to write layout: {error.fullMessage}" with
        notes }
    | none =>
      { tree := saved.tree
        output := if args.json then line (importedJson imported).pretty
          else importedText imported path
        notes }

/-- Runs the command. -/
def importLayout (settings : Settings) (args : ImportArgs) (tree : Disk.Tree) : Outcome :=
  match importDeviceId? settings args with
  | none => .failed tree .rejected missingDeviceId
  | some deviceId =>
    match tree.readText args.snippet with
    | .error error =>
      .failed tree .brokenOff s!"Failed to read snippet {args.snippet}: {error.message}"
    | .ok text =>
      match Snippet.importSnippet text deviceId with
      | .error error => { tree, failure := some (snippetFailure error) }
      | .ok imported =>
        let notes := if args.json then "" else warningNotes imported.warnings
        let count := imported.warnings.length
        if isStrict settings args && count ≠ 0 then
          { Outcome.failed tree .rejected s!"{count} import warnings found in strict mode" with
            notes }
        else writeImported args imported notes tree

end Command
end EpaperLayout
