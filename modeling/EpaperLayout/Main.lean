import EpaperLayout.Command.Program

/-!
# The program on the real disk

The program itself is a function on trees.  Here the part of the real disk that
it may read is looked at first, the program is run on what was seen, and then
what it has changed is carried out.

**Looking.** Only the places on the way to the paths in question are looked at.
Where a file will be put is known after a first run, so the program is run again
once these places have been looked at, too.  Links are looked through: what they
lead to is seen in their place.

**Carrying out.** A file is replaced by renaming a complete new one.
-/

namespace EpaperLayout

open Disk

/-- The path of a location from the root. -/
def Disk.Location.path (location : Location) : Path :=
  "/" ++ String.intercalate "/" location

/-- What stands at a location of the real disk. -/
def Disk.Location.look (location : Location) : IO (Option Entry) := do
  let isDirectory ← try
      discard <| IO.FS.realPath (location.path ++ "/.")
      pure true
    catch _ => pure false
  if isDirectory then return some .directory
  try
    return some (.file (← IO.FS.readBinFile location.path).toList)
  catch _ => return none

/-- Adds what stands at the locations of the real disk. -/
def Disk.Tree.look (tree : Tree) : List Location → IO Tree
  | [] => return tree
  | location :: rest => do
    if (tree.get? location).isSome then tree.look rest
    else
      match ← location.look with
      | some entry => (tree.put location entry).look rest
      | none => tree.look rest

/-- Puts an entry in its place on the real disk. -/
def Disk.Entry.store (location : Location) : Entry → IO Unit
  | .directory => IO.FS.createDirAll location.path
  | .file content _ => do
    let temporary := temporaryPath location.path
    IO.FS.writeBinFile temporary content.toByteArray
    IO.FS.rename temporary location.path
  -- no link is ever seen, so none is to be put anywhere
  | .link _ => pure ()

/-- The environment of the program. -/
def readEnvironment : IO Environment := do
  return {
    settingsFile := ← IO.getEnv "PAGECRAFT_CONFIG"
    configHome := ← IO.getEnv "XDG_CONFIG_HOME"
    home := ← IO.getEnv "HOME" }

/-- Looks at all that the program may read. -/
def lookAround (environment : Environment) (arguments : List String) : IO Tree := do
  let working := (Path.segments (toString (← IO.FS.realPath "."))).filter Tree.isName
  let bare : Tree := { workingDirectory := working }
  let placesOf (paths : List Path) : List Location := paths.flatMap bare.places
  let settingsPaths := match environment.settingsPath with
    | .ok path => [path]
    | .error _ => []
  let withSettings ← bare.look (placesOf (Location.path working :: settingsPaths))
  match Command.readRequest arguments with
  | .error _ => return withSettings
  | .ok request =>
    let settings := (Command.usableSettings environment withSettings).1
    withSettings.look (placesOf (settings.layoutsDir.toList ++ request.paths settings))

/-- The places where the program puts something, with those of temporary files. -/
def changedPlaces (before after : Tree) : List Location :=
  (before.changes after).flatMap fun (location, _) =>
    before.places location.path ++ before.places (temporaryPath location.path)

end EpaperLayout

open EpaperLayout in
/-- Runs the program. -/
def main (arguments : List String) : IO UInt32 := do
  let environment ← readEnvironment
  let seen ← lookAround environment arguments
  let trial := Command.run environment arguments seen
  let before ← seen.look (changedPlaces seen trial.tree)
  let finish := Command.run environment arguments before
  for (location, entry) in (before.changes finish.tree).reverse do
    entry.store location
  IO.print finish.output
  IO.eprint finish.notes
  return finish.exitCode.toUInt32
