import EpaperLayout.Command.Outcome
import EpaperLayout.Layout.Storage
import EpaperLayout.Settings.Storage
import EpaperLayout.Snippet.Generation

/-!
# The command that writes snippets

A layout is read and its snippet is written to the output or to a file.  A file
that cannot be read or written breaks the command off; an invalid layout is
rejected, and then no file is written.
-/

namespace EpaperLayout
namespace Command

/-- The arguments of the command. -/
structure GenerateArgs where
  /-- The file with the layout. -/
  layout : String
  /-- The file for the snippet. -/
  out : Option String := none
deriving DecidableEq, Repr

/-- The message for a snippet that was written to a file. -/
def generatedText (device : Device) (out : String) : String :=
  let pages := device.pages.length
  let widgets := device.widgetCount
  line s!"✓ Generated snippet for '{device.name}' ({pages} pages, {widgets} widgets)"
    ++ line s!"  {out}"

/-- Runs the command. -/
def generate (settings : Settings) (args : GenerateArgs) (tree : Disk.Tree) : Outcome :=
  match tree.loadDevice (tree.resolveLayout settings args.layout) with
  | .error error => .failed tree .brokenOff s!"Failed to load layout: {error.fullMessage}"
  | .ok device =>
    match Snippet.generate device with
    | .error error => .failed tree .rejected error.message
    | .ok snippet =>
      match args.out with
      | none => { tree, output := snippet }
      | some out =>
        let saved := tree.writeFile out snippet
        match saved.error with
        | some error =>
          .failed saved.tree .brokenOff s!"Failed to write snippet: {error.fullMessage}"
        | none => { tree := saved.tree, output := generatedText device out }

end Command
end EpaperLayout
