import EpaperLayout.Toml.Reader
import EpaperLayout.Toml.Writing

/-!
# Settings

The settings of the program and their written form, a TOML text with the sections
`paths`, `import` and `logging`.

**Reading.** Sections and keys may be missing and then have their defaults;
unknown ones are ignored.  A section may also be written as an array of its
values in their order, or as a date, which has none of them.  A value of another
type is an error.

**Writing.** All sections are written, separated by empty lines; settings that
are not given are left out.
-/

namespace EpaperLayout

/-- The settings of the program. -/
structure Settings where
  /-- Directory in which layouts are looked up. -/
  layoutsDir : Option String := none
  /-- Whether an import with warnings fails. -/
  strict : Bool := false
  /-- Identifier of the device for which snippets are imported. -/
  deviceId : Option String := none
  logLevel : String := "warn"
deriving DecidableEq, Repr

namespace Settings

open Toml

/-- A value read as a string. -/
def asString : Value → Option String
  | .string text => some text
  | _ => none

/-- A value read as a truth value. -/
def asBool : Value → Option Bool
  | .boolean value => some value
  | _ => none

/-- The values of the given keys in a section. -/
def sectionValues (keys : List String) : Value → Option (List (Option Value))
  | .table _ entries => some (keys.map fun key => entries.lookup key)
  | .array items => some (keys.mapIdx fun index _ => items[index]?)
  | .tables items =>
    let ordered := items.reverse.map (Value.table .explicit)
    some (keys.mapIdx fun index _ => ordered[index]?)
  | .dateTime _ => some (keys.map fun _ => none)
  | _ => none

/-- Reads the section with the paths. -/
def readPaths (settings : Settings) (value : Value) : Option Settings := do
  match ← sectionValues ["layouts_dir"] value with
  | [layoutsDir] => return { settings with layoutsDir := ← layoutsDir.mapM asString }
  | _ => return settings

/-- Reads the section about imports. -/
def readImport (settings : Settings) (value : Value) : Option Settings := do
  match ← sectionValues ["strict", "device_id"] value with
  | [strict, deviceId] =>
    return { settings with
      strict := (← strict.mapM asBool).getD settings.strict
      deviceId := ← deviceId.mapM asString }
  | _ => return settings

/-- Reads the section about logging. -/
def readLogging (settings : Settings) (value : Value) : Option Settings := do
  match ← sectionValues ["level"] value with
  | [level] => return { settings with logLevel := (← level.mapM asString).getD settings.logLevel }
  | _ => return settings

/-- Reads a section, if it is there. -/
def readSection (root : Entries) (name : String) (read : Settings → Value → Option Settings)
    (settings : Settings) : Option Settings :=
  match root.lookup name with
  | some value => read settings value
  | none => some settings

/-- Reads settings from their written form. -/
def ofText? (text : String) : Option Settings := do
  let root ← readTable? text
  let withPaths ← readSection root "paths" readPaths {}
  let withImport ← readSection root "import" readImport withPaths
  readSection root "logging" readLogging withImport

/-- The line of a string, if it is given. -/
def stringLine? (key : String) (text : Option String) : List String :=
  text.toList.map fun text => s!"{key} = {writeString text}\n"

/-- The written form of settings. -/
def toText (settings : Settings) : String :=
  let strict := if settings.strict then "true" else "false"
  String.join <|
    ["[paths]\n"] ++ stringLine? "layouts_dir" settings.layoutsDir
      ++ ["\n[import]\n", s!"strict = {strict}\n"]
      ++ stringLine? "device_id" settings.deviceId
      ++ ["\n[logging]\n", s!"level = {writeString settings.logLevel}\n"]

end Settings
end EpaperLayout
