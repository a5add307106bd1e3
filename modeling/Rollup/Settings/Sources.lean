import Rollup.CommandLine.Arguments
import Rollup.Files
import Rollup.Settings.Config
import Rollup.Settings.Environment
import Rollup.Settings.Toml

/-!
Where settings come from: files, the environment and the arguments. Files are the user's own, in two
places, and one in the working directory; each may go on from another file. What is named later goes
before what is named earlier.
-/

namespace Rollup

/-- Why there is no configuration. -/
inductive SettingsFault where
  | arguments (cause : CommandLine.ArgumentsFault)
  /-- A file of settings cannot be used, or a setting is not of its type. -/
  | malformed
  | config (cause : ConfigFault)
deriving DecidableEq, Repr

/-- What settings are gathered from, besides the arguments. -/
structure Sources (m : Type → Type) where
  files : FileSystem m
  environment : List (String × String) := []

namespace SettingsFile

/-- The usual name of a file of settings. -/
def name : String := ".mapfeed.toml"

/-- The path of the settings within a directory of configurations. -/
def sharedPath : String := "mapfeed/config.toml"

/-- Where that directory is within the user's own, unless another is named. -/
def sharedDirectory : String := ".config"

/-- The path of the table that holds settings. -/
def table : List String := ["cmds", "mapfeed-cli"]

/-- The entry that names a file to go on from. -/
def base : String := "extends"

/-- What the names of files in other formats end with. -/
def otherFormats : List String := ["json", "json5", "yaml", "yml"]

/-- How many files may go on from one another. -/
def chainLimit : Nat := 1000

/-- The settings that a file holds, by the format that its name tells. -/
def entries (place : Place) (content : FileContent) : Except SettingsFault Layer :=
  let extension? := (place.getLast?.bind Path.extension?).map String.toLower
  if extension?.any otherFormats.contains then .error .malformed
  else
    match content.text?.bind Toml.read? with
    | some entries => .ok entries
    | none => .error .malformed

/-- What a file says together with those it goes on from, `passed` being the places of the files
that go on from it. No file goes on from itself. -/
def chain {m : Type → Type} [Monad m] (files : FileSystem m) (passed : List Place) (place : Place)
    (content : FileContent) : Nat → ExceptT SettingsFault m Layer
  | 0 => throw .malformed
  | count + 1 => do
    if passed.contains place then throw .malformed
    let own ← (entries place content : Except SettingsFault Layer)
    match own.get? base with
    | none => return own
    | some (.text path) =>
      match ← files.file? place.dropLast path with
      | none => throw .malformed
      | some (basePlace, baseContent) =>
        return Layer.overlay (← chain files (place :: passed) basePlace baseContent count) own
    | some _ => throw .malformed

/-- The settings in the file at a path, none of them if there is no such file. -/
def layer {m : Type → Type} [Monad m] (files : FileSystem m) (path : String) :
    ExceptT SettingsFault m Layer := do
  match ← files.file? files.workingDirectory path with
  | none => return []
  | some (place, content) =>
    match (Datum.table (← chain files [] place content chainLimit)).find? table with
    | some (.table layer) => return layer
    | _ => return []

end SettingsFile

namespace Sources

/-- The paths of the files that may hold settings. -/
def paths {m : Type → Type} (sources : Sources m) : List String :=
  let named := fun name => (sources.environment.lookup name).filter (· ≠ "")
  let home? := named "HOME"
  let shared? :=
    (named "XDG_CONFIG_HOME").filter Path.isAbsolute <|>
      home?.map fun home => home ++ "/" ++ SettingsFile.sharedDirectory
  (home?.map fun home => home ++ "/" ++ SettingsFile.name).toList ++
    (shared?.map fun directory => directory ++ "/" ++ SettingsFile.sharedPath).toList ++
    [SettingsFile.name]

/-- The configuration that arguments make together with the other sources. -/
def configure {m : Type → Type} [Monad m] (sources : Sources m) (arguments : List String) :
    ExceptT SettingsFault m Config := do
  let flags ← ((CommandLine.readArguments arguments).mapError .arguments :
    Except SettingsFault Layer)
  let filed ← sources.paths.mapM (SettingsFile.layer sources.files)
  let layers := filed ++ [Environment.layer sources.environment, flags]
  match Choices.ofLayer? (Layer.merge layers) with
  | none => throw .malformed
  | some choices => ((Config.ofChoices choices).mapError .config : Except SettingsFault Config)

end Sources

end Rollup
