import EpaperLayout.Disk.Replacement
import EpaperLayout.Settings.Basic
import EpaperLayout.Text.Blank

/-!
# Settings on disk

Where the settings are kept, how they are checked, and how they are read and
written.

**Place.** An environment variable may name the file; else it is in the directory
of the program below the directory for configurations.

**Checks.** The log level must be one of five, a device identifier must not be
blank, and the directory for layouts must not be anything but a directory.
Settings are checked after they are read and before they are written; a failed
check comes before any change to the disk.
-/

namespace EpaperLayout

open Disk

/-- What the environment says about the place of the settings. -/
structure Environment where
  /-- The file with the settings. -/
  settingsFile : Option String := none
  /-- The directory for configurations. -/
  configHome : Option String := none
  /-- The home directory. -/
  home : Option String := none
deriving DecidableEq, Repr

/-- Why settings cannot be read or written. -/
inductive SettingsError where
  | noPlace
  | read (path : Path) (error : AccessError)
  | parse (path : Path)
  | logLevel (level : String)
  | blankDeviceId
  | notDirectory (path : Path)
  | replace (error : ReplaceError)
deriving DecidableEq, Repr

/-- The log levels. -/
def logLevels : List String :=
  ["error", "warn", "info", "debug", "trace"]

namespace SettingsError

/-- The message without the reason behind it. -/
def message : SettingsError → String
  | .noPlace => "Failed to determine config directory"
  | .read path _ => s!"Failed to read config file: {path}"
  | .parse path => s!"Failed to parse config file: {path}"
  | .logLevel level =>
    let known := String.intercalate ", " logLevels
    s!"Invalid log level '{level}'. Expected one of: {known}"
  | .blankDeviceId => "import.device_id cannot be empty when set"
  | .notDirectory path => s!"Layouts path is not a directory: {path}"
  | .replace error =>
    match error.stage with
    | .directory => s!"Failed to create config directory: {error.path}"
    | .temporary => s!"Failed to write temp config file: {error.path}"
    | .rename => s!"Failed to rename temp config file to: {error.path}"

/-- The reason behind an error. -/
def reason? : SettingsError → Option String
  | .read _ error => some error.message
  | .parse _ => some "malformed TOML"
  | .replace error => some error.error.message
  | _ => none

/-- The message with its reason. -/
def fullMessage (error : SettingsError) : String :=
  String.intercalate ": " (error.message :: error.reason?.toList)

end SettingsError

/-- The directory for configurations. -/
def Environment.configDirectory? (environment : Environment) : Option Path :=
  match environment.configHome.filter Path.isAbsolute with
  | some directory => some directory
  | none =>
    (environment.home.filter fun home => !home.isEmpty).map fun home => Path.join home ".config"

/-- The file with the settings. -/
def Environment.settingsPath (environment : Environment) : Except SettingsError Path :=
  match environment.settingsFile.filter fun path => !path.isEmpty, environment.configDirectory? with
  | some path, _ => .ok path
  | none, some directory => .ok (Path.join (Path.join directory "pagecraft") "config.toml")
  | none, none => .error .noPlace

/-- The temporary file next to the file with the settings. -/
def temporarySettingsPath (path : Path) : Path :=
  Path.withExtension path "toml.tmp"

namespace Disk.Tree

/-- Checks settings. -/
def checkSettings (tree : Tree) (settings : Settings) : Except SettingsError Unit := do
  if !logLevels.contains settings.logLevel then throw (.logLevel settings.logLevel)
  if settings.deviceId.any Text.isBlankText then throw .blankDeviceId
  match settings.layoutsDir with
  | some directory =>
    if tree.exists? directory && !tree.isDirectory directory then throw (.notDirectory directory)
  | none => return

/-- Reads the settings from a file; without the file they are the default ones. -/
def loadSettings (tree : Tree) (path : Path) : Except SettingsError Settings := do
  if !tree.exists? path then return {}
  match tree.readText path with
  | .error error => throw (.read path error)
  | .ok text =>
    match Settings.ofText? text with
    | none => throw (.parse path)
    | some settings =>
      tree.checkSettings settings
      return settings

/-- What an attempt to write settings comes to. -/
structure SettingsSaved where
  tree : Tree
  error : Option SettingsError := none

/-- Writes settings to a file. -/
def saveSettings (tree : Tree) (settings : Settings) (path : Path) : SettingsSaved :=
  match tree.checkSettings settings with
  | .error error => { tree, error := some error }
  | .ok () =>
    let replacement := tree.replaceFile (temporarySettingsPath path) path settings.toText
    { tree := replacement.tree, error := replacement.error.map .replace }

/-- The path of a layout that is asked for: a relative path that leads nowhere is looked up in the
directory for layouts. -/
def resolveLayout (tree : Tree) (settings : Settings) (path : Path) : Path :=
  if Path.isAbsolute path || tree.exists? path then path
  else
    match settings.layoutsDir with
    | some directory =>
      if tree.exists? (Path.join directory path) then Path.join directory path else path
    | none => path

/-- Reads the settings that the environment points to. -/
def settingsFor (tree : Tree) (environment : Environment) : Except SettingsError Settings := do
  tree.loadSettings (← environment.settingsPath)

end Disk.Tree
end EpaperLayout
