import RowFunctions.FileTrees
import RowFunctions.SettingsDocuments

/-!
# Settings files

The extension of a settings file tells its format.  When no file is named, the
first one found counts: the directories are searched one after the other, the
working directory first, and in each of them all file names in order.
-/

namespace RowFunctions

namespace SettingsFile

/-- The names of settings files, in the order of the search. -/
def names : List String := ["rowfn.toml", ".rowfn.toml", "rowfn.yaml", ".rowfn.yaml"]

/-- The home directory: the one that the environment gives or else that of the
account, where an empty path is none. -/
def home? (environment : Environment) : Option String :=
  (environment.home.filter (· ≠ "")).or (environment.accountHome.filter (· ≠ ""))

/-- The directory for the settings of all tools: the one that the environment gives,
if that is an absolute path, or else the one below home. -/
def configurationDirectory? (environment : Environment) : Option String :=
  (environment.configurationHome.filter FilePath.isAbsolute).or
    ((home? environment).map (FilePath.join · ".config"))

/-- The directories of the search, starting with a given one. -/
def directories (environment : Environment) (start : String) : List String :=
  start :: ((configurationDirectory? environment).map (FilePath.join · "rowfn")).toList ++
    match home? environment with
    | some home => [FilePath.join (FilePath.join home ".config") "rowfn", home]
    | none => []

def places (environment : Environment) (start : String) : List String :=
  (directories environment start).flatMap fun directory => names.map (FilePath.join directory)

/-- The format that the extension of a path stands for. -/
def format? (path : String) : Option SettingsFormat :=
  (FilePath.extension? path).bind SettingsFormat.ofExtension?

/-- The format in which settings are written to a path, which is TOML when there
is no extension. -/
def writtenFormat? (path : String) : Option SettingsFormat :=
  SettingsFormat.ofExtension? ((FilePath.extension? path).getD "toml")

def firstPresent {m : Type → Type} [Monad m] [FileAccess m] : List String → m (Option String)
  | [] => pure none
  | path :: paths => do
      if ← FileAccess.isPresent path then
        return some path
      else
        firstPresent paths

/-- The canonical path of the settings file that a search from a directory
finds. -/
def findFrom {m : Type → Type} [Monad m] [FileAccess m] (environment : Environment)
    (start : String) : m (Option String) := do
  match ← firstPresent (places environment start) with
  | none => return none
  | some path => return some ((← FileAccess.canonical path).getD path)

/-- The canonical path of the settings file that a search from the working
directory finds. -/
def find {m : Type → Type} [Monad m] [FileAccess m] (environment : Environment) :
    m (Option String) := do
  findFrom environment ((← FileAccess.workingDirectory).getD ".")

end SettingsFile

namespace Settings

/-- Merge a settings file into the settings; the path tells the format. -/
def mergeFile {m : Type → Type} [Monad m] [FileAccess m] (path : String) :
    StateT Settings m (Except SettingsFault Unit) := do
  match ← (FileAccess.readText path : m _) with
  | .error failure => return .error (.unreadableFile failure)
  | .ok text =>
      match SettingsFile.format? path with
      | none => return .error .unsupportedFormat
      | some format =>
          match format.read text with
          | .error fault => return .error fault
          | .ok document =>
              modify fun settings => settings.merge document.settings
              return .ok ()

/-- The settings of a file alone. -/
def loadFile {m : Type → Type} [Monad m] [FileAccess m] (path : String) :
    m (Except SettingsFault Settings) := do
  match ← (mergeFile path).run initial with
  | (.error fault, _) => return .error fault
  | (.ok (), settings) => return .ok settings

/-- The settings of the file that a search finds, and of the environment. -/
def load {m : Type → Type} [Monad m] [FileAccess m] (environment : Environment) :
    m (Except SettingsFault Settings) := do
  match ← SettingsFile.find environment with
  | none => return .ok (initial.mergeEnvironment environment)
  | some path =>
      match ← loadFile path with
      | .ok settings => return .ok (settings.mergeEnvironment environment)
      | .error fault => return .error fault

def save {m : Type → Type} [Monad m] [FileAccess m] (settings : Settings) (path : String) :
    m (Except SettingsFault Unit) := do
  match SettingsFile.writtenFormat? path with
  | none => return .error .unsupportedFormat
  | some format =>
      match ← FileAccess.writeText path (format.print settings) with
      | .ok () => return .ok ()
      | .error failure => return .error (.unwritableFile failure)

end Settings

end RowFunctions
