/-!
# Paths

A path is a text; its segments are separated by slashes.  It is absolute if it
begins with a slash and else relative to the working directory.  Here a path is
only taken apart and put together; what it leads to is a matter of the disk.

**Parts.** Empty segments and dots inside a path do not count.  The *file name* is
the last part, unless that is a double dot or there is none.  The *parent* is
the path before the last part, without slashes and dots at its end.
-/

namespace EpaperLayout
namespace Disk

/-- A path as it is written. -/
abbrev Path :=
  String

namespace Path

/-- The segments of a text between slashes. -/
def segmentsOf : List Char → List (List Char)
  | [] => [[]]
  | c :: rest =>
    match segmentsOf rest with
    | first :: others => if c = '/' then [] :: first :: others else (c :: first) :: others
    | [] => [[c]]

/-- The segments of a path, the empty ones included. -/
def segments (path : Path) : List String :=
  (segmentsOf path.toList).map String.ofList

/-- Whether a path begins at the root. -/
def isAbsolute (path : Path) : Bool :=
  path.toList.head? = some '/'

/-- A path that continues another one; an absolute path stands for itself. -/
def join (base path : Path) : Path :=
  if isAbsolute path || base.isEmpty || base.toList.getLast? = some '/' then
    (if isAbsolute path then path else base ++ path)
  else base ++ "/" ++ path

/-- The characters of a path split before its last part, and that part; both reversed. -/
def splitLastReversed (reversed : List Char) : List Char × List Char :=
  (reversed.dropWhile (· ≠ '/'), reversed.takeWhile (· ≠ '/'))

/-- The characters of a path, reversed, without slashes and idle dots at its end.  A slash that
begins the path stays, and so does a dot that begins it. -/
def trimReversed : (steps : Nat) → List Char → List Char
  | 0, reversed => reversed
  | steps + 1, reversed =>
    match reversed with
    | '/' :: [] => reversed
    | '/' :: rest => trimReversed steps rest
    | '.' :: '/' :: rest => trimReversed steps ('/' :: rest)
    | _ => reversed

/-- The path without slashes at its end. -/
def withoutSlashes (path : Path) : Path :=
  String.ofList (path.toList.reverse.dropWhile (· = '/')).reverse

/-- The path without slashes and idle dots at its end. -/
def trimmed (path : Path) : Path :=
  String.ofList (trimReversed path.length path.toList.reverse).reverse

/-- The parts of a path before and at its last segment, when nothing idle is at its end. -/
def splitLast (path : Path) : Path × String :=
  let (before, last) := splitLastReversed (trimmed path).toList.reverse
  (String.ofList before.reverse, String.ofList last.reverse)

/-- The path before the last part; nothing for the root and for the empty path. -/
def parent? (path : Path) : Option Path :=
  let (before, last) := splitLast path
  if last.isEmpty then none else some (trimmed before)

/-- The last part of a path, if it is a name. -/
def fileName? (path : Path) : Option String :=
  let last := (splitLast path).2
  if last.isEmpty || last = "." || last = ".." then none else some last

/-- The path with another file name; a path without one is continued. -/
def withFileName (path : Path) (name : String) : Path :=
  if (fileName? path).isSome then join ((parent? path).getD "") name else join path name

/-- A file name without its extension: the last dot, if the name does not begin with it, and what
follows. -/
def stem (name : String) : String :=
  let reversed := name.toList.reverse
  match reversed.dropWhile (· ≠ '.') with
  | _ :: before => if before.isEmpty then name else String.ofList before.reverse
  | [] => name

/-- The path with another extension. -/
def withExtension (path : Path) (extension : String) : Path :=
  match fileName? path with
  | some name => withFileName path (stem name ++ "." ++ extension)
  | none => path

end Path
end Disk
end EpaperLayout
