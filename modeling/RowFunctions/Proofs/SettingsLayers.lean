import RowFunctions.ProgramRuns

/-!
# Layers of settings

The settings of a run come from the settings file that a search finds, the variables
of the environment, the settings file that is named and the options, in this order.
Looking for settings only reads files.  This file computes the settings of a run from
what the two files say, so that nothing else has to follow the programs that look for
them.  A file that is not there says nothing, and merging a document that says nothing
changes nothing.  The documents that the settings name are loaded if they can be read and
understood.
-/

namespace RowFunctions

theorem bind_apply {First Second : Type} (first : StateM FileTree First)
    (next : First → StateM FileTree Second) (tree : FileTree) :
    (first >>= next) tree = next (first tree).1 (first tree).2 :=
  rfl

/-- The document that says nothing. -/
def SettingsDocument.silent : SettingsDocument := ⟨none, none, none, none⟩

namespace Settings

@[simp]
theorem settings_silent : SettingsDocument.silent.settings = initial := rfl

@[simp]
theorem merge_initial (settings : Settings) : settings.merge initial = settings := by
  simp [merge, initial]

@[simp]
theorem initial_merge (settings : Settings) : initial.merge settings = settings := by
  obtain ⟨dictionaries, plan, strictArity, verbosity⟩ := settings
  by_cases quiet : verbosity = 0 <;> simp [merge, initial, quiet]

end Settings

namespace SettingsFile

/-- What the settings file at a path says. -/
def document (tree : FileTree) (path : String) : Except SettingsFault SettingsDocument :=
  match tree.readText path with
  | .error failure => .error (.unreadableFile failure)
  | .ok text =>
      match format? path with
      | none => .error .unsupportedFormat
      | some format => format.read text

/-- The canonical path of the settings file that a search from the working directory
finds. -/
def found? (environment : Environment) (tree : FileTree) : Option String :=
  ((places environment (FilePath.ofParts tree.workingDirectory)).find? tree.isPresent).map
    fun path => (tree.canonical? path).getD path

theorem found?_eq_none {environment : Environment} {tree : FileTree}
    (absent : ∀ path ∈ places environment (FilePath.ofParts tree.workingDirectory),
      tree.isPresent path = false) : found? environment tree = none := by
  simpa [found?] using absent

/-- The settings file in the working directory is found before all others. -/
theorem found?_of_present {environment : Environment} {tree : FileTree} {path : String}
    (working : FilePath.join (FilePath.ofParts tree.workingDirectory) "rowfn.toml" = path)
    (present : tree.isPresent path = true) :
    found? environment tree = some ((tree.canonical? path).getD path) := by
  simp [found?, places, directories, names, working, present]

/-- What the settings file says that is read if there is one. -/
def documentOf (tree : FileTree) : Option String → Except SettingsFault SettingsDocument
  | none => .ok .silent
  | some path => document tree path

theorem firstPresent_apply (paths : List String) (tree : FileTree) :
    (firstPresent paths : StateM FileTree _) tree = (paths.find? tree.isPresent, tree) := by
  induction paths with
  | nil => rfl
  | cons path paths ih =>
      have asked : (FileAccess.isPresent path : StateM FileTree _) tree =
          (tree.isPresent path, tree) := rfl
      simp only [firstPresent, bind_apply, asked, List.find?_cons]
      cases tree.isPresent path with
      | true => rfl
      | false => exact ih

theorem find_apply (environment : Environment) (tree : FileTree) :
    (find environment : StateM FileTree _) tree = (found? environment tree, tree) := by
  have working : (FileAccess.workingDirectory : StateM FileTree _) tree =
      (some (FilePath.ofParts tree.workingDirectory), tree) := rfl
  simp only [find, findFrom, bind_apply, working, Option.getD_some, firstPresent_apply, found?]
  cases (places environment (FilePath.ofParts tree.workingDirectory)).find? tree.isPresent <;> rfl

end SettingsFile

namespace Settings

/-- Merging a file puts what the file says over the settings and changes no file.  A
file that says nothing of use leaves the settings alone. -/
theorem mergeFile_apply (settings : Settings) (path : String) (tree : FileTree) :
    ((mergeFile path).run settings : StateM FileTree _) tree =
      match SettingsFile.document tree path with
      | .error fault => ((.error fault, settings), tree)
      | .ok document => ((.ok (), settings.merge document.settings), tree) := by
  have read : (liftM (FileAccess.readText path : StateM FileTree _) :
      StateT Settings (StateM FileTree) _).run settings tree =
        ((tree.readText path, settings), tree) := rfl
  simp only [mergeFile, StateT.run_bind, bind_apply, read, SettingsFile.document]
  cases tree.readText path with
  | error failure => rfl
  | ok text =>
      simp only
      cases SettingsFile.format? path with
      | none => rfl
      | some format =>
          simp only
          cases format.read text <;> rfl

theorem loadFile_apply (path : String) (tree : FileTree) :
    (loadFile path : StateM FileTree _) tree =
      ((SettingsFile.document tree path).map SettingsDocument.settings, tree) := by
  simp only [loadFile, bind_apply, mergeFile_apply]
  cases SettingsFile.document tree path with
  | error fault => rfl
  | ok document =>
      simp only [initial_merge]
      rfl

theorem load_apply (environment : Environment) (tree : FileTree) :
    (load environment : StateM FileTree _) tree =
      ((SettingsFile.documentOf tree (SettingsFile.found? environment tree)).map fun document =>
        document.settings.mergeEnvironment environment, tree) := by
  simp only [load, bind_apply, SettingsFile.find_apply]
  cases SettingsFile.found? environment tree with
  | none =>
      simp only [SettingsFile.documentOf, Except.map, settings_silent]
      rfl
  | some path =>
      simp only [bind_apply, loadFile_apply, SettingsFile.documentOf]
      cases SettingsFile.document tree path <;> rfl

end Settings

namespace Invocation

/-- The settings of a run below its options. -/
def lowerSettings (invocation : Invocation) (environment : Environment) (tree : FileTree) :
    Except SettingsFault Settings :=
  (SettingsFile.documentOf tree (SettingsFile.found? environment tree)).bind fun found =>
    (SettingsFile.documentOf tree invocation.settingsFile).map fun named =>
      (found.settings.mergeEnvironment environment).merge named.settings

/-- The settings of a run, put together from the layers. -/
def layers (invocation : Invocation) (environment : Environment) (tree : FileTree) :
    Except SettingsFault Settings :=
  (invocation.lowerSettings environment tree).map invocation.apply

/-- Looking for the settings of a run finds the layers and changes no file. -/
theorem settings_apply (invocation : Invocation) (environment : Environment) (tree : FileTree) :
    (invocation.settings environment : StateM FileTree _) tree =
      (invocation.layers environment tree, tree) := by
  simp only [settings, bind_apply, Settings.load_apply, layers, lowerSettings]
  cases SettingsFile.documentOf tree (SettingsFile.found? environment tree) with
  | error fault => rfl
  | ok found =>
      cases invocation.settingsFile with
      | none =>
          simp only [Except.map, Except.bind, SettingsFile.documentOf,
            Settings.settings_silent, Settings.merge_initial]
          rfl
      | some path =>
          simp only [Except.map, Except.bind, SettingsFile.documentOf, bind_apply,
            Settings.mergeFile_apply]
          cases SettingsFile.document tree path <;> rfl

/-- Without a settings file only the environment is below the options. -/
theorem lowerSettings_of_absent {invocation : Invocation} {environment : Environment}
    {tree : FileTree}
    (absent : ∀ path ∈ SettingsFile.places environment
        (FilePath.ofParts tree.workingDirectory), tree.isPresent path = false)
    (unnamed : invocation.settingsFile = none) :
    invocation.lowerSettings environment tree =
      .ok (Settings.initial.mergeEnvironment environment) := by
  simp only [lowerSettings, SettingsFile.found?_eq_none absent, unnamed,
    SettingsFile.documentOf, Except.bind, Except.map, Settings.settings_silent,
    Settings.merge_initial]

theorem layers_of_absent {invocation : Invocation} {environment : Environment} {tree : FileTree}
    (absent : ∀ path ∈ SettingsFile.places environment
        (FilePath.ofParts tree.workingDirectory), tree.isPresent path = false)
    (unnamed : invocation.settingsFile = none) :
    invocation.layers environment tree =
      .ok (invocation.apply (Settings.initial.mergeEnvironment environment)) := by
  rw [layers, lowerSettings_of_absent absent unnamed]
  rfl

/-- A run of which the settings are in order carries out its command under them, and
every other run fails. -/
theorem run_apply (invocation : Invocation) (environment : Environment) (tree : FileTree) :
    (invocation.run environment : StateM FileTree _) tree =
      match (invocation.layers environment tree).bind fun settings =>
          settings.validate.map fun _ => settings with
      | .error fault => (.failure "" (.settings fault), tree)
      | .ok settings => (carryOut settings invocation.command : StateM FileTree _) tree := by
  simp only [run, bind_apply, settings_apply]
  cases invocation.layers environment tree with
  | error fault => rfl
  | ok settings =>
      simp only [Except.bind]
      cases settings.validate <;> rfl

end Invocation

/-! ### Documents that the settings name -/

namespace ToolCommand

variable {settings : Settings} {tree : FileTree} {path text : String}

theorem loadCatalog_of_parse (named : settings.dictionaries = some path)
    (readable : tree.readText path = .ok text) {catalog : DictionaryCatalog}
    (accepted : DictionaryCatalog.parse text = .ok catalog) :
    (loadCatalog settings : StateM FileTree _) tree = (.ok catalog, tree) := by
  have read : (FileAccess.readText path : StateM FileTree _) tree = (.ok text, tree) :=
    Prod.ext readable rfl
  have loaded : (loadCatalogFile path : StateM FileTree _) tree = (.ok catalog, tree) := by
    rw [loadCatalogFile, bind_apply, read, ← accepted]
    rfl
  rw [loadCatalog, named]
  simp only [bind_apply, loaded]
  rfl

theorem loadPlan_of_parse (named : settings.plan = some path)
    (readable : tree.readText path = .ok text) {plan : Plan}
    (understood : Plan.parse? text = some plan) :
    (loadPlan settings : StateM FileTree _) tree = (.ok plan, tree) := by
  have read : (FileAccess.readText path : StateM FileTree _) tree = (.ok text, tree) :=
    Prod.ext readable rfl
  simp only [loadPlan, named, bind_apply, read, understood]
  rfl

/-- A resolution answers from its plan once its documents are loaded. -/
theorem resolveArgument_of_loaded {request : ResolveRequest} {plan : Plan}
    {catalog : DictionaryCatalog} (lenient : settings.strictArity = false)
    (planned : (loadPlan settings : StateM FileTree _) tree = (.ok plan, tree))
    (usable : (loadCatalogIfNamed settings : StateM FileTree _) tree = (.ok catalog, tree)) :
    (resolveArgument settings request : StateM FileTree _) tree = (request.answer plan, tree) := by
  simp only [resolveArgument, lenient, Bool.false_eq_true, false_and, if_false, bind_apply,
    planned, usable]
  rfl

end ToolCommand

end RowFunctions
