import EpaperLayout.Command.Line

/-!
# The program

The program reads its command line, then its settings, and runs the command.
Settings that cannot be read are noted and replaced by the default ones.  A
failure is the last note.
-/

namespace EpaperLayout
namespace Command

/-- The name of the program and its version. -/
def versionText : String :=
  "pagecraft 0.4.0"

/-- How the program is used. -/
def usageText : String :=
  "Usage: pagecraft [OPTIONS] <COMMAND>"

/-- Runs the command that is asked for. -/
def Request.run (request : Request) (settings : Settings) (tree : Disk.Tree) : Outcome :=
  match request with
  | .generate args => Command.generate settings args tree
  | .importLayout args => Command.importLayout settings args tree
  | .validate args => Command.validate settings args tree

/-- The paths that a request may read or write, when it is run with the settings. -/
def Request.paths (request : Request) (settings : Settings) : List Disk.Path :=
  let layoutPaths (layout : Disk.Path) : List Disk.Path :=
    layout :: settings.layoutsDir.toList.flatMap fun directory =>
      [directory, Disk.Path.join directory layout]
  let outPaths (out : Option Disk.Path) : List Disk.Path :=
    out.toList.flatMap fun path => [path, temporaryPath path]
  match request with
  | .generate args => layoutPaths args.layout ++ outPaths args.out
  | .importLayout args => args.snippet :: outPaths args.out
  | .validate args => layoutPaths args.layout

/-- The end of a run of the program. -/
structure Finish where
  tree : Disk.Tree
  exitCode : UInt8
  output : String
  notes : String

/-- The settings to be used, and the note if they could not be read. -/
def usableSettings (environment : Environment) (tree : Disk.Tree) : Settings × String :=
  match tree.settingsFor environment with
  | .ok settings => (settings, "")
  | .error error =>
    ({}, line s!"⚠ Ignoring configuration file, using defaults: {error.fullMessage}")

/-- Runs a request with the settings that the environment points to. -/
def runRequest (environment : Environment) (request : Request) (tree : Disk.Tree) : Finish :=
  let (settings, settingsNote) := usableSettings environment tree
  let outcome := request.run settings tree
  let failureNote := match outcome.failure with
    | some failure => line s!"Error: {failure.message}"
    | none => ""
  { tree := outcome.tree
    exitCode := outcome.exitCode
    output := outcome.output
    notes := settingsNote ++ outcome.notes ++ failureNote }

/-- Runs the program for what ends the reading of its command line early. -/
def runStop (tree : Disk.Tree) : Stop → Finish
  | .help => { tree, exitCode := 0, output := line usageText, notes := "" }
  | .version => { tree, exitCode := 0, output := line versionText, notes := "" }
  | .wrong error =>
    { tree, exitCode := 2, output := "", notes := line error.message ++ "\n" ++ line usageText }

/-- Runs the program. -/
def run (environment : Environment) (arguments : List String) (tree : Disk.Tree) : Finish :=
  match readRequest arguments with
  | .ok request => runRequest environment request tree
  | .error stop => runStop tree stop

end Command
end EpaperLayout
