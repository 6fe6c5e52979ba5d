import EpaperLayout.Disk.Tree

/-!
# Replacing a file as a whole

A file is replaced by writing its new content to a temporary file next to it and
then renaming that file.  So the file has either its old or its new content,
whatever goes wrong.

**Stages.** The directory of the file is made first, with all directories before
it.  A failure tells the stage, the path that was being worked on, and why.  If
the renaming fails the temporary file stays.
-/

namespace EpaperLayout
namespace Disk

/-- A stage of replacing a file. -/
inductive Stage where
  | directory
  | temporary
  | rename
deriving DecidableEq, Repr

/-- A stage that failed. -/
structure ReplaceError where
  stage : Stage
  path : Path
  error : AccessError
deriving DecidableEq, Repr

/-- What replacing a file comes to. -/
structure Replacement where
  tree : Tree
  error : Option ReplaceError := none

/-- The directory to be made before a file with the path is written. -/
def directoryOf? (path : Path) : Option Path :=
  (Path.parent? path).filter fun parent => !parent.isEmpty

namespace Tree

/-- Makes the directory of a file. -/
def makeDirectoryOf (tree : Tree) (path : Path) : Replacement :=
  match directoryOf? path with
  | none => { tree }
  | some parent =>
    let effect := tree.makeDirectories parent
    { tree := effect.tree
      error := effect.error.map fun error => { stage := .directory, path := parent, error } }

/-- Renames the temporary file. -/
def finishReplacement (tree : Tree) (temporary path : Path) : Replacement :=
  match tree.rename temporary path with
  | .ok changed => { tree := changed }
  | .error error => { tree, error := some { stage := .rename, path, error } }

/-- Replaces the file with the path, by way of a temporary file. -/
def replaceFile (tree : Tree) (temporary path : Path) (text : String) : Replacement :=
  let prepared := tree.makeDirectoryOf path
  match prepared.error with
  | some _ => prepared
  | none =>
    let written := prepared.tree.writeText temporary text
    match written.error with
    | some error =>
      { tree := written.tree, error := some { stage := .temporary, path := temporary, error } }
    | none => written.tree.finishReplacement temporary path

end Tree
end Disk
end EpaperLayout
