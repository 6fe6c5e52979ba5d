import EpaperLayout.Disk.Replacement
import EpaperLayout.Layout.Exchange
import EpaperLayout.Text.Lowercase

/-!
# Layouts on disk

Layouts are kept in files in their exchange form.  A file is replaced as a whole,
by way of a file with the suffix `.tmp` next to it.

**Names.** A layout for which only a directory is given gets a file named after
its device, in lower case and without the characters that separate paths.
-/

namespace EpaperLayout

open Disk

/-- Why a layout cannot be read or written. -/
inductive StorageError where
  | read (path : Path) (error : AccessError)
  | parse (path : Path) (error : Json.ReadError)
  /-- A file could not be replaced. -/
  | replace (error : ReplaceError)
  /-- A layout could not be saved because its file could not be replaced. -/
  | save (path : Path) (error : ReplaceError)
deriving DecidableEq, Repr

namespace StorageError

/-- The message for a file that could not be replaced. -/
def replaceMessage (error : ReplaceError) : String :=
  match error.stage with
  | .directory => s!"Failed to create directory {error.path}"
  | .temporary => s!"Failed to write temp file {error.path}"
  | .rename => s!"Failed to rename temp file to {error.path}"

/-- The message for text that is no layout. -/
def parseMessage : Json.ReadError → String
  | .fault .malformed => "malformed JSON"
  | .fault .truncated => "EOF while parsing a value"
  | .mismatch mismatch => mismatch.message

/-- The message without the reasons behind it. -/
def message : StorageError → String
  | .read path _ => s!"Failed to read layout file {path}"
  | .parse path _ => s!"Failed to parse layout JSON in {path}"
  | .replace error => replaceMessage error
  | .save path _ => s!"Failed to save layout to {path}"

/-- The reasons behind an error, the nearest first. -/
def reasons : StorageError → List String
  | .read _ error => [error.message]
  | .parse _ error => [parseMessage error]
  | .replace error => [error.error.message]
  | .save _ error => [replaceMessage error, error.error.message]

/-- The message with all reasons. -/
def fullMessage (error : StorageError) : String :=
  String.intercalate ": " (error.message :: error.reasons)

end StorageError

/-- A character of a file name in place of the given one. -/
def fileNameChar (c : Char) : Char :=
  if c = '/' || c = '\\' || c = ':' || c = ' ' then '_' else c

/-- The text as a file name without an extension. -/
def fileNameOf (text : String) : String :=
  String.ofList (Text.lowercase (text.toList.map fileNameChar))

/-- The temporary file next to a file. -/
def temporaryPath (path : Path) : Path :=
  Path.withFileName path ((Path.fileName? path).getD "" ++ ".tmp")

/-- What an attempt to write comes to: the tree after it, and why it failed. -/
structure Saved where
  tree : Tree
  error : Option StorageError := none

namespace Disk.Tree

/-- Replaces a file. -/
def writeFile (tree : Tree) (path : Path) (text : String) : Saved :=
  let replacement := tree.replaceFile (temporaryPath path) path text
  { tree := replacement.tree, error := replacement.error.map .replace }

/-- Reads a layout. -/
def loadDevice (tree : Tree) (path : Path) : Except StorageError Device :=
  match tree.readText path with
  | .error error => .error (.read path error)
  | .ok text =>
    match Device.ofText text with
    | .ok device => .ok device
    | .error error => .error (.parse path error)

/-- Writes a layout. -/
def saveDevice (tree : Tree) (device : Device) (path : Path) : Saved :=
  let replacement := tree.replaceFile (temporaryPath path) path (device.toText ++ "\n")
  { tree := replacement.tree, error := replacement.error.map (.save path) }

/-- The path of the file for a layout: the target itself, or a file in it if it is a directory. -/
def outputPath (tree : Tree) (target : Path) (device : Device) : Path :=
  if tree.isDirectory target then Path.join target (fileNameOf device.id ++ ".json") else target

end Disk.Tree
end EpaperLayout
