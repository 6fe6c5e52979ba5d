import EpaperLayout.Command.Outcome
import EpaperLayout.Layout.Storage
import EpaperLayout.Settings.Storage

/-!
# The command that checks layouts

A layout is read and checked, and the report is written for people or for
programs.  An invalid layout is rejected, and in strict mode one with warnings.
-/

namespace EpaperLayout
namespace Command

/-- The arguments of the command. -/
structure ValidateArgs where
  /-- The file with the layout. -/
  layout : String
  json : Bool := false
  strict : Bool := false
deriving DecidableEq, Repr

/-- The lines with the problems and warnings of a report. -/
def issuesText (report : Report) : String :=
  if report.errors.isEmpty && report.warnings.isEmpty then ""
  else
    line "\nIssues:"
      ++ String.join (report.errors.map fun problem => line s!"  ✗ {problem.text}")
      ++ String.join (report.warnings.map fun warning => line s!"  ⚠ {warning}")

/-- The report on a device for people. -/
def reportText (device : Device) (report : Report) : String :=
  line (if report.isValid then "✓ Validation passed" else "✗ Validation failed")
    ++ line s!"\nDevice '{device.name}' ({device.id})"
    ++ line s!"  Pages:   {device.pages.length}"
    ++ line s!"  Widgets: {device.widgetCount}"
    ++ issuesText report

/-- Why a layout with the report is rejected. -/
def rejection? (report : Report) (strict : Bool) : Option Failure :=
  if !report.isValid then some { kind := .rejected, message := "Validation failed" }
  else if strict && !report.warnings.isEmpty then
    some { kind := .rejected, message := "Warnings found in strict mode" }
  else none

/-- Runs the command. -/
def validate (settings : Settings) (args : ValidateArgs) (tree : Disk.Tree) : Outcome :=
  match tree.loadDevice (tree.resolveLayout settings args.layout) with
  | .error error => .failed tree .brokenOff s!"Failed to load layout: {error.fullMessage}"
  | .ok device =>
    let report := device.validate
    { tree
      output := if args.json then line report.toJson.pretty else reportText device report
      failure := rejection? report args.strict }

end Command
end EpaperLayout
