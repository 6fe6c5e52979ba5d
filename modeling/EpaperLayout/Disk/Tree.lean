import EpaperLayout.Disk.Path
import EpaperLayout.Text.Utf8

/-!
# Disks

A disk is a tree of directories, files and links, with a working directory.  A
*location* is the list of names that leads to an entry from the root; a path is
looked up from the root or from the working directory.

**Looking up.** Every segment of a path but the last must lead to a directory,
and so must the last if a slash or a dot follows it.  A link holds a path, which
is followed in its place, from the directory of the link.  A link as the last
segment is followed to read, to write and to ask what is there, but not to make
a directory or to rename.  Only so many links are followed for one path.

**Changing.** A directory can be made where there is no entry yet, a file can be
written where there is no directory, and a file or a link can be renamed to a
place where there is no directory.

**Refusals.** A disk may refuse an access, for whatever reason of its own; then
nothing is changed, except that a file that cannot be filled may be left empty.
Whether a file may be read belongs to the file: it stays so when the file is
filled anew or renamed.  The disk says only whether a new file may be read.

**Left out** are devices and pipes, and second names of one file.

**Results.** An entry that is put in place is found there, and no other entry
changes.
-/

namespace EpaperLayout
namespace Disk

/-- The names that lead from the root to an entry. -/
abbrev Location :=
  List String

/-- What stands at a location. -/
inductive Entry where
  | directory
  | file (content : List UInt8) (readable : Bool := true)
  | link (target : Path)
deriving DecidableEq, Repr

/-- What a disk may refuse. -/
inductive Access where
  /-- Looking up a name in a directory. -/
  | search
  | makeDirectory
  /-- Opening a file to write it. -/
  | openFile
  | fillFile
  /-- Reading a file that is made anew. -/
  | readNewFile
  | rename
deriving DecidableEq, Repr

/-- Why an access to a disk fails. -/
inductive AccessError where
  | notFound
  | notPermitted
  | busy
  | exists
  | notDirectory
  | isDirectory
  | full
  | nameTooLong
  | tooManyLinks
  | badName
  | notText
deriving DecidableEq, Repr

/-- The message for an access that fails. -/
def AccessError.message : AccessError → String
  | .notFound => "No such file or directory (os error 2)"
  | .notPermitted => "Permission denied (os error 13)"
  | .busy => "Device or resource busy (os error 16)"
  | .exists => "File exists (os error 17)"
  | .notDirectory => "Not a directory (os error 20)"
  | .isDirectory => "Is a directory (os error 21)"
  | .full => "No space left on device (os error 28)"
  | .nameTooLong => "File name too long (os error 36)"
  | .tooManyLinks => "Too many levels of symbolic links (os error 40)"
  | .badName => "file name contained an unexpected NUL byte"
  | .notText => "stream did not contain valid UTF-8"

/-- A tree of directories, files and links. -/
structure Tree where
  /-- The entries with their locations; the root is always a directory. -/
  entries : List (Location × Entry) := []
  workingDirectory : Location := []
  /-- What the disk refuses. -/
  refuses : Access → Location → Bool := fun _ _ => false

namespace Tree

/-- The entry at a location. -/
def get? (tree : Tree) (location : Location) : Option Entry :=
  if location = [] then some .directory else tree.entries.lookup location

/-- The tree without the entry at a location. -/
def erase (tree : Tree) (location : Location) : Tree :=
  { tree with entries := tree.entries.filter fun placed => placed.1 ≠ location }

/-- The tree with an entry put at a location. -/
def put (tree : Tree) (location : Location) (entry : Entry) : Tree :=
  { tree with entries := (location, entry) :: (tree.erase location).entries }

/-- The longest name, in bytes. -/
def nameLimit : Nat := 255

/-- The longest path, in bytes. -/
def pathLimit : Nat := 4095

/-- Why a path leads nowhere, whatever is on the disk. -/
def faultOf? (path : Path) : Option AccessError :=
  if path.toList.contains '\x00' then some .badName
  else if path.isEmpty then some .notFound
  else if pathLimit < path.utf8ByteSize then some .nameTooLong
  else none

/-- Whether a segment is a name. -/
def isName (segment : String) : Bool :=
  !(segment = "" || segment = "." || segment = "..")

/-- The location that a segment stands for, seen from a directory. -/
def advance (location : Location) (segment : String) : Location :=
  if segment = ".." then location.dropLast
  else if isName segment then location ++ [segment]
  else location

/-- The location of a segment, if it can be looked up in the directory at a location. -/
def enter (tree : Tree) (location : Location) (segment : String) :
    Except AccessError Location :=
  if tree.get? location ≠ some .directory then .error .notDirectory
  else if tree.refuses .search location then .error .notPermitted
  else if nameLimit < segment.utf8ByteSize then .error .nameTooLong
  else .ok (advance location segment)

/-- Where a path begins that is looked up from a location. -/
def start (location : Location) (path : Path) : Location :=
  if Path.isAbsolute path then [] else location

/-- The directory in which the last of the segments stands, and that segment.  What is to be done at
a link is given, for the location and the target of the link and the segments after it. -/
def walk (tree : Tree) (followLast : Bool)
    (atLink : Location → Path → List String → Except AccessError (Location × String)) :
    Location → List String → Except AccessError (Location × String)
  | _, [] => .error .notFound
  | location, [segment] => do
    let next ← tree.enter location segment
    match tree.get? next with
    | some (.link target) =>
      if followLast then atLink next target [] else return (location, segment)
    | _ => return (location, segment)
  | location, segment :: other :: rest => do
    let next ← tree.enter location segment
    match tree.get? next with
    | some (.link target) => atLink next target (other :: rest)
    | some _ => walk tree followLast atLink next (other :: rest)
    | none => throw .notFound

/-- The directory in which the last of the segments stands, and that segment, after at most so many
links. -/
def trace (tree : Tree) (followLast : Bool) :
    (links : Nat) → Location → List String → Except AccessError (Location × String)
  | 0 => tree.walk followLast fun _ _ _ => .error .tooManyLinks
  | links + 1 => tree.walk followLast fun location target rest =>
    match faultOf? target with
    | some error => .error error
    | none =>
      trace tree followLast links (start location.dropLast target) (Path.segments target ++ rest)

/-- The most links that are followed for one path. -/
def linkLimit : Nat := 40

/-- The location from which a path is looked up. -/
def base (tree : Tree) (path : Path) : Location :=
  start tree.workingDirectory path

/-- The directory in which the last segment of a path stands, and that segment; a link there may be
followed or not. -/
def lookUp (tree : Tree) (followLast : Bool) (path : Path) :
    Except AccessError (Location × String) :=
  match faultOf? path with
  | some error => .error error
  | none => tree.trace followLast linkLimit (tree.base path) (Path.segments path)

/-- The location that a path leads to. -/
def locate (tree : Tree) (path : Path) : Except AccessError Location := do
  let (directory, segment) ← tree.lookUp true path
  let location := advance directory segment
  if (tree.get? location).isSome then return location else throw .notFound

/-- Whether a path leads anywhere. -/
def exists? (tree : Tree) (path : Path) : Bool :=
  match tree.locate path with
  | .ok _ => true
  | .error _ => false

/-- Whether a path leads to a directory. -/
def isDirectory (tree : Tree) (path : Path) : Bool :=
  match tree.locate path with
  | .ok location => tree.get? location = some .directory
  | .error _ => false

/-- The content of the file that a path leads to. -/
def readBytes (tree : Tree) (path : Path) : Except AccessError (List UInt8) := do
  match tree.get? (← tree.locate path) with
  | some (.file content readable) => if readable then return content else throw .notPermitted
  | some .directory => throw .isDirectory
  | _ => throw .notFound

/-- The content of the file that a path leads to, as text. -/
def readText (tree : Tree) (path : Path) : Except AccessError String := do
  match Text.decode? (← tree.readBytes path) with
  | some text => return String.ofList text
  | none => throw .notText

/-- Makes the directory with the path, whose parent must exist. -/
def makeDirectory (tree : Tree) (path : Path) : Except AccessError Tree := do
  let (directory, name) ← tree.lookUp false (Path.trimmed path)
  if !isName name then throw .exists
  let location := directory ++ [name]
  if (tree.get? location).isSome then throw .exists
  if tree.refuses .makeDirectory location then throw .notPermitted
  return tree.put location .directory

/-- What an access does to a tree: it fails or not, and either way leaves a tree. -/
structure Effect where
  tree : Tree
  error : Option AccessError := none

/-- The effect of a change that leaves the tree as it is when it fails. -/
def Effect.of (tree : Tree) (result : Except AccessError Tree) : Effect :=
  match result with
  | .ok changed => { tree := changed }
  | .error error => { tree, error := some error }

/-- The location where a file with the path can be written. -/
def fileLocation (tree : Tree) (path : Path) : Except AccessError Location := do
  let (directory, name) ← tree.lookUp true path
  if !isName name then throw .isDirectory
  let location := directory ++ [name]
  if tree.get? location = some .directory then throw .isDirectory
  if tree.refuses .openFile location then throw .notPermitted
  return location

/-- Whether a file may be read once it is written at the location. -/
def readableAt (tree : Tree) (location : Location) : Bool :=
  match tree.get? location with
  | some (.file _ readable) => readable
  | _ => !tree.refuses .readNewFile location

/-- Writes a file. -/
def writeBytes (tree : Tree) (path : Path) (content : List UInt8) : Effect :=
  match tree.fileLocation path with
  | .error error => { tree, error := some error }
  | .ok location =>
    let readable := tree.readableAt location
    if tree.refuses .fillFile location then
      { tree := tree.put location (.file [] readable), error := some .full }
    else { tree := tree.put location (.file content readable) }

/-- Writes a text as a file. -/
def writeText (tree : Tree) (path : Path) (text : String) : Effect :=
  tree.writeBytes path (Text.encode text.toList)

/-- Renames a file or a link; a file or a link that has the new name is replaced.  A path with a
slash at its end is no name for either. -/
def rename (tree : Tree) (source target : Path) : Except AccessError Tree := do
  let (sourceDirectory, sourceName) ← tree.lookUp false source
  let place := Path.withoutSlashes target
  if place.isEmpty && !target.isEmpty then throw .busy
  let (targetDirectory, targetName) ← tree.lookUp false place
  if !isName targetName then throw .busy
  let origin := sourceDirectory ++ [sourceName]
  match tree.get? origin with
  | none | some .directory => throw .notFound
  | some entry =>
    if place ≠ target then throw .notDirectory
    let destination := targetDirectory ++ [targetName]
    if tree.get? destination = some .directory then throw .isDirectory
    if tree.refuses .rename destination then throw .notPermitted
    return (tree.erase origin).put destination entry

/-- Makes the directory with the path unless it exists. -/
def ensureDirectory (tree : Tree) (path : Path) : Except AccessError Tree :=
  match tree.makeDirectory path with
  | .ok changed => .ok changed
  | .error error =>
    if error ≠ .notFound && tree.isDirectory path then .ok tree else .error error

/-- Makes the directory with the path, and before it all that are missing on the way to it; `steps`
is the number of segments that may be missing. -/
def makeDirectoriesWithin (tree : Tree) : (steps : Nat) → Path → Effect
  | 0, path => .of tree (tree.ensureDirectory path)
  | steps + 1, path =>
    match tree.ensureDirectory path with
    | .error .notFound =>
      match Path.parent? path with
      | some parent =>
        if parent.isEmpty then { tree, error := some .notFound }
        else
          let before := makeDirectoriesWithin tree steps parent
          match before.error with
          | some error => { tree := before.tree, error := some error }
          | none => .of before.tree (before.tree.ensureDirectory path)
      | none => { tree, error := some .notFound }
    | result => .of tree result

/-- Makes the directory with the path, and before it all that are missing on the way to it. -/
def makeDirectories (tree : Tree) (path : Path) : Effect :=
  makeDirectoriesWithin tree path.length path

/-- The entries of a later tree that are new or have changed. -/
def changes (before after : Tree) : List (Location × Entry) :=
  after.entries.filter fun placed => before.get? placed.1 ≠ some placed.2

/-- The locations that the segments pass, from a location on. -/
def placesFrom (location : Location) : List String → List Location
  | [] => [location]
  | segment :: rest => location :: placesFrom (advance location segment) rest

/-- The locations that a path passes, whatever stands there. -/
def places (tree : Tree) (path : Path) : List Location :=
  placesFrom (tree.base path) (Path.segments path)

/-- Looking up after entries with another key were dropped. -/
theorem lookup_filter_ne {entries : List (Location × Entry)} {location other : Location}
    (h : other ≠ location) :
    (entries.filter fun placed => placed.1 ≠ location).lookup other = entries.lookup other := by
  induction entries with
  | nil => rfl
  | cons placed rest ih =>
    obtain ⟨place, entry⟩ := placed
    by_cases hp : place = location
    · have hne : (other == location) = false := by simp [h]
      simpa [hp, List.lookup_cons, hne] using ih
    · by_cases ho : (other == place) = true
      · simp [hp, List.lookup_cons, ho]
      · simp only [Bool.not_eq_true] at ho
        simpa [hp, List.lookup_cons, ho] using ih

/-- An entry that is put in place is found there. -/
theorem get?_put_self (tree : Tree) {location : Location} (entry : Entry)
    (h : location ≠ []) : (tree.put location entry).get? location = some entry := by
  simp [put, get?, h]

/-- Putting an entry in place changes no other entry. -/
theorem get?_put_of_ne (tree : Tree) {location other : Location} (entry : Entry)
    (h : other ≠ location) : (tree.put location entry).get? other = tree.get? other := by
  have hbeq : (other == location) = false := by simp [h]
  unfold put get? erase
  split
  · rfl
  · simpa [List.lookup_cons, hbeq] using lookup_filter_ne h

/-- Erasing an entry changes no other entry. -/
theorem get?_erase_of_ne (tree : Tree) {location other : Location} (h : other ≠ location) :
    (tree.erase location).get? other = tree.get? other := by
  unfold erase get?
  split
  · rfl
  · exact lookup_filter_ne h

/-- An entry that is erased is not found any more. -/
theorem get?_erase_self (tree : Tree) {location : Location} (h : location ≠ []) :
    (tree.erase location).get? location = none := by
  simp only [erase, get?, h, if_false, List.lookup_eq_none_iff]
  intro placed hmem
  have hne : placed.1 ≠ location := by simpa using (List.mem_filter.1 hmem).2
  simpa using fun heq : location = placed.1 => hne heq.symm

end Tree
end Disk
end EpaperLayout
