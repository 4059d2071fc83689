import RowFunctions.Proofs.SettingsLayers
import RowFunctions.Proofs.WrittenFiles

/-!
# Settings that are saved

Saving picks a format by the extension of the path, and so does loading.  The two
agree except where a path has no extension: settings are then written as TOML, and no
format is known to read them in.  Everywhere else the settings that were saved are
loaded again, provided that the format reads back what it writes, which it does for
the initial settings.  So a run accepts a settings file that an earlier run created,
unless its path has no extension.
-/

namespace RowFunctions

/-- Settings come back when they are written and read in a format. -/
def SettingsFormat.ReadsBack (format : SettingsFormat) (settings : Settings) : Prop :=
  (format.read (format.print settings)).map SettingsDocument.settings = .ok settings

theorem SettingsFormat.readsBack_initial (format : SettingsFormat) :
    format.ReadsBack Settings.initial := by
  unfold ReadsBack
  cases format <;> decide +kernel

theorem SettingsFile.format?_eq (path : String) :
    format? path = if (FilePath.extension? path).isSome then writtenFormat? path else none := by
  unfold format? writtenFormat?
  cases FilePath.extension? path <;> rfl

namespace Settings

theorem save_apply (settings : Settings) (path : String) (tree : FileTree) :
    (settings.save path : StateM FileTree _) tree =
      match SettingsFile.writtenFormat? path with
      | none => (.error .unsupportedFormat, tree)
      | some format =>
          match tree.writeText path (format.print settings) with
          | .ok changed => (.ok (), changed)
          | .error failure => (.error (.unwritableFile failure), tree) := by
  have write (text : String) : (FileAccess.writeText path text : StateM FileTree _) tree =
      match tree.writeText path text with
      | .ok changed => (.ok (), changed)
      | .error failure => (.error failure, tree) := rfl
  unfold save
  cases SettingsFile.writtenFormat? path with
  | none => rfl
  | some format =>
      simp only [bind_apply, write]
      cases tree.writeText path (format.print settings) <;> rfl

/-- What was written when settings could be saved. -/
theorem exists_written_of_save {settings : Settings} {path : String} {tree changed : FileTree}
    (saved : (settings.save path : StateM FileTree _) tree = (.ok (), changed)) :
    ∃ format, SettingsFile.writtenFormat? path = some format ∧
      changed.readText path = .ok (format.print settings) := by
  rw [save_apply] at saved
  cases writes : SettingsFile.writtenFormat? path with
  | none => rw [writes] at saved; cases saved
  | some format =>
      simp only [writes] at saved
      cases written : tree.writeText path (format.print settings) with
      | error failure => rw [written] at saved; cases saved
      | ok other =>
          rw [written] at saved
          cases saved
          exact ⟨format, rfl, FileTree.readText_of_writeText written⟩

end Settings

/-- What is loaded from a file to which settings were saved. -/
def SettingsFile.saved (path : String) (settings : Settings) : Except SettingsFault Settings :=
  if (FilePath.extension? path).isSome then .ok settings else .error .unsupportedFormat

theorem SettingsFile.document_of_save {settings : Settings} {path : String}
    {tree changed : FileTree}
    (saved : (settings.save path : StateM FileTree _) tree = (.ok (), changed))
    (readsBack : ∀ format, writtenFormat? path = some format → format.ReadsBack settings) :
    (document changed path).map SettingsDocument.settings = SettingsFile.saved path settings := by
  obtain ⟨format, writes, written⟩ := Settings.exists_written_of_save saved
  rw [document, written, SettingsFile.saved]
  simp only [format?_eq]
  split_ifs with extended
  · simp only [writes]
    exact readsBack format writes
  · rfl

namespace Invocation

/-- The invocation without the option that names a settings file. -/
def unnamed (invocation : Invocation) : Invocation := { invocation with settingsFile := none }

/-- A run that creates a settings file without failing has saved the initial settings. -/
theorem saved_of_run {invocation : Invocation} {environment : Environment}
    {tree created : FileTree} {outcome : ProgramOutcome} {path : String} {force : Bool}
    (creates : invocation.command = .createSettings path force)
    (ran : (invocation.run environment : StateM FileTree _) tree = (outcome, created))
    (succeeded : outcome.code = 0) :
    (Settings.initial.save path : StateM FileTree _) tree = (.ok (), created) := by
  rw [run_apply, creates] at ran
  split at ran
  · cases ran
    cases succeeded
  · have present : (FileAccess.isPresent path : StateM FileTree _) tree =
        (tree.isPresent path, tree) := rfl
    simp only [carryOut, ToolCommand.createSettingsFile, bind_apply, present] at ran
    split at ran
    · cases ran
      cases succeeded
    · simp only [bind_apply] at ran
      rcases saved : (Settings.initial.save path : StateM FileTree _) tree with ⟨result, changed⟩
      simp only [saved] at ran
      cases result with
      | error fault => cases ran; cases succeeded
      | ok done => cases ran; rfl

/-- Naming a file with the initial settings changes no settings, but the file has to be
one that can be loaded. -/
theorem layers_of_initial {invocation : Invocation} {tree : FileTree} {path : String}
    (named : invocation.settingsFile = some path)
    (tells : (SettingsFile.document tree path).map SettingsDocument.settings =
      SettingsFile.saved path .initial) (environment : Environment) :
    invocation.layers environment tree =
      (invocation.unnamed.layers environment tree).bind (SettingsFile.saved path) := by
  have merged : invocation.lowerSettings environment tree =
      (SettingsFile.documentOf tree (SettingsFile.found? environment tree)).bind fun found =>
        ((SettingsFile.document tree path).map SettingsDocument.settings).map
          (found.settings.mergeEnvironment environment).merge := by
    simp only [lowerSettings, named, SettingsFile.documentOf]
    cases SettingsFile.document tree path <;> rfl
  -- What the search finds is the same with and without the named file.
  rw [layers, layers, merged, tells, lowerSettings]
  cases SettingsFile.documentOf tree (SettingsFile.found? environment tree) with
  | error fault => rfl
  | ok found =>
      simp only [Except.bind, Except.map, SettingsFile.saved, unnamed, SettingsFile.documentOf,
        Settings.settings_silent]
      split_ifs
      · simp only [Settings.merge_initial]
        rfl
      · rfl

end Invocation

/-- Settings that were saved are loaded again whenever the path has an extension.
A path without one can be saved to, as TOML, but nothing is loaded from it: its
format is not known.  So a settings file that a run creates is accepted by later runs
that name it, and changes nothing for them, unless its path has no extension; then
every run that names it fails. -/
theorem Settings.saved_settings_load (path : String) :
    (∀ (settings : Settings) (tree changed : FileTree),
      (settings.save path : StateM FileTree _) tree = (.ok (), changed) →
      (∀ format, SettingsFile.writtenFormat? path = some format → format.ReadsBack settings) →
      (loadFile path : StateM FileTree _) changed =
        (if (FilePath.extension? path).isSome then .ok settings else .error .unsupportedFormat,
          changed)) ∧
    ∀ (creating : Invocation) (environment : Environment) (tree created : FileTree)
      (outcome : ProgramOutcome) (force : Bool),
      creating.command = .createSettings path force →
      (creating.run environment : StateM FileTree _) tree = (outcome, created) →
      outcome.code = 0 →
      ∀ (later : Invocation) (laterEnvironment : Environment), later.settingsFile = some path →
        (later.run laterEnvironment : StateM FileTree _) created =
          if (FilePath.extension? path).isSome then
            (later.unnamed.run laterEnvironment : StateM FileTree _) created
          else
            match (later.unnamed.settings laterEnvironment : StateM FileTree _) created with
            | (.ok _, _) => (.failure "" (.settings .unsupportedFormat), created)
            | (.error fault, _) => (.failure "" (.settings fault), created) := by
  constructor
  · intro settings tree changed saved readsBack
    rw [loadFile_apply, SettingsFile.document_of_save saved readsBack]
    rfl
  · intro creating environment tree created outcome force creates ran succeeded later
      laterEnvironment named
    have saved := Invocation.saved_of_run creates ran succeeded
    have tells := SettingsFile.document_of_save saved fun format _ => format.readsBack_initial
    rw [Invocation.run_apply, Invocation.run_apply, Invocation.settings_apply,
      Invocation.layers_of_initial named tells]
    have command : later.unnamed.command = later.command := rfl
    rw [command]
    cases later.unnamed.layers laterEnvironment created with
    | error fault => split_ifs <;> rfl
    | ok settings =>
        simp only [Except.bind, SettingsFile.saved]
        split_ifs <;> rfl

/-- Saving and creating under a hidden name with several dots. -/
theorem Settings.saved_settings_load_from_hidden_file :
    let path := ".team.rowfn.yml"
    let tree : FileTree := ⟨[(["data"], .directory)], ["data"]⟩
    let settings : Settings := ⟨some "names: \"old\" #2.json", none, true, 2⟩
    let changed := tree.put ["data", path] (.text (YamlSettings.print settings))
    let created := tree.put ["data", path] (.text (YamlSettings.print initial))
    let nothing : Environment := ⟨none, none, none, none, none, none, none⟩
    let creating : Invocation := ⟨none, none, 0, .createSettings path false⟩
    let later : Invocation := ⟨some path, none, 1, .showSettings⟩
    (settings.save path : StateM FileTree _) tree = (.ok (), changed) ∧
      (loadFile path : StateM FileTree _) changed = (.ok settings, changed) ∧
      (creating.run nothing : StateM FileTree _) tree =
        (.success "Created config file: .team.rowfn.yml\n", created) ∧
      (later.run nothing : StateM FileTree _) created =
        (later.unnamed.run nothing : StateM FileTree _) created := by
  intro path tree settings changed created nothing creating later
  have writes : SettingsFile.writtenFormat? path = some .yaml := by decide +kernel
  have extended : (FilePath.extension? path).isSome = true := by decide +kernel
  have place : tree.writablePlace path = .ok ["data", path] := by
    simp only [FileTree.writablePlace, FileTree.checkPath_eq]
    decide +kernel
  have saves (given : Settings) : (given.save path : StateM FileTree _) tree =
      (.ok (), tree.put ["data", path] (.text (YamlSettings.print given))) := by
    simp only [save_apply, writes, FileTree.writeText, place]
    rfl
  have readsBack (format : SettingsFormat)
      (written : SettingsFile.writtenFormat? path = some format) : format.ReadsBack settings := by
    rw [writes] at written
    cases written
    unfold SettingsFormat.ReadsBack
    decide +kernel
  have layers : creating.layers nothing tree = .ok initial := by
    refine Invocation.layers_of_absent ?_ rfl
    simp only [FileTree.isPresent, FileTree.find, FileTree.checkPath_eq]
    decide +kernel
  have absent : tree.isPresent path = false := by
    simp only [FileTree.isPresent, FileTree.find, FileTree.checkPath_eq]
    decide +kernel
  have asked : (FileAccess.isPresent path : StateM FileTree _) tree = (false, tree) :=
    Prod.ext absent rfl
  have ran : (creating.run nothing : StateM FileTree _) tree =
      (.success "Created config file: .team.rowfn.yml\n", created) := by
    rw [Invocation.run_apply, layers]
    change (Invocation.carryOut initial (.createSettings path false) : StateM FileTree _) tree = _
    simp only [Invocation.carryOut, ToolCommand.createSettingsFile, bind_apply, asked]
    simp only [Bool.not_false, Bool.and_true, Bool.false_eq_true, if_false, bind_apply,
      saves initial]
    rfl
  have loads := (saved_settings_load path).1 settings tree changed (saves settings) readsBack
  have accepted := (saved_settings_load path).2 creating nothing tree created _ false rfl ran rfl
    later nothing rfl
  rw [if_pos extended] at loads accepted
  exact ⟨saves settings, loads, ran, accepted⟩

/-- Under a path without an extension settings are saved and cannot be loaded. -/
theorem Settings.saved_settings_lost_without_extension :
    let settings : Settings := ⟨none, some "unit.json", true, 0⟩
    let tree : FileTree := ⟨[], []⟩
    let changed := tree.put ["settings"] (.text (TomlSettings.print settings))
    (settings.save "settings" : StateM FileTree _) tree = (.ok (), changed) ∧
      (∀ format : SettingsFormat, format.ReadsBack settings) ∧
      (loadFile "settings" : StateM FileTree _) changed = (.error .unsupportedFormat, changed) := by
  intro settings tree changed
  have writes : SettingsFile.writtenFormat? "settings" = some .toml := by decide +kernel
  have place : tree.writablePlace "settings" = .ok ["settings"] := by
    simp only [FileTree.writablePlace, FileTree.checkPath_eq]
    decide +kernel
  have saved : (settings.save "settings" : StateM FileTree _) tree = (.ok (), changed) := by
    simp only [save_apply, writes, FileTree.writeText, place]
    rfl
  have readsBack (format : SettingsFormat) : format.ReadsBack settings := by
    unfold SettingsFormat.ReadsBack
    cases format <;> decide +kernel
  have bare : (FilePath.extension? "settings").isSome = false := by decide +kernel
  refine ⟨saved, readsBack, ?_⟩
  rw [loadFile_apply, SettingsFile.document_of_save saved fun format _ => readsBack format,
    SettingsFile.saved, bare]
  rfl

end RowFunctions
