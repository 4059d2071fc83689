import RowFunctions.Proofs.SettingsLayers
import RowFunctions.Proofs.WrittenFiles

/-!
# Layers that override each other

A settings file is merged into settings by the settings that it stands for, and these
cannot tell an initial value that the file gives from one that it leaves out.  So a
file overrides what was there before, but for the initial values: it can switch strict
arity on and not off, and it can change the verbosity but not set it back to zero.
-/

namespace RowFunctions

/-! ### Values that are only given when they are not initial -/

section Given

variable {Value : Type} [DecidableEq Value]

theorem ite_getD_eq (initial base : Value) (given : Option Value) :
    (if given.getD initial = initial then base else given.getD initial) =
      (given.filter (· != initial)).getD base := by
  cases given with
  | none => simp
  | some value => by_cases same : value = initial <;> simp [Option.filter, same]

theorem getD_filter_ne_iff (initial base : Value) (given : Option Value) :
    (given.filter (· != initial)).getD base = given.getD base ↔
      ¬ (given = some initial ∧ base ≠ initial) := by
  cases given with
  | none => simp
  | some value => by_cases same : value = initial <;> simp [Option.filter, same]

end Given

namespace SettingsDocument

/-- The settings in which all that a document says replaces what was there. -/
def overriding (document : SettingsDocument) (base : Settings) : Settings where
  dictionaries := document.dictionaries.or base.dictionaries
  plan := document.plan.or base.plan
  strictArity := document.strictArity.getD base.strictArity
  verbosity := document.verbosity.getD base.verbosity

/-- What a document says apart from the initial values that it gives. -/
def effective (document : SettingsDocument) : SettingsDocument :=
  { document with
    strictArity := document.strictArity.filter (· != Settings.initial.strictArity)
    verbosity := document.verbosity.filter (· != Settings.initial.verbosity) }

end SettingsDocument

namespace Settings

/-- Merging puts exactly what is effective in a document over the settings. -/
theorem merge_settings (base : Settings) (document : SettingsDocument) :
    base.merge document.settings = document.effective.overriding base := by
  have switched (given : Option Bool) : (given.getD false || base.strictArity) =
      (given.filter (· != false)).getD base.strictArity := by
    rw [← ite_getD_eq]
    cases given.getD false <;> rfl
  unfold merge SettingsDocument.overriding
  congr 1
  · exact switched document.strictArity
  · exact ite_getD_eq initial.verbosity base.verbosity document.verbosity

/-- Merging a settings file gives each path that it names and keeps each path that it
does not name.  The same holds of strict arity and verbosity, except that a file
neither switches strict arity off nor sets another verbosity back to zero.  A file
that cannot be merged leaves the settings as they were. -/
theorem merged_file_overrides (base : Settings) (path : String) (tree : FileTree) :
    let merging := ((mergeFile path).run base : StateM FileTree _) tree
    let result := merging.1.1
    let settings := merging.1.2
    merging.2 = tree ∧
      match SettingsFile.document tree path with
      | .error fault => result = .error fault ∧ settings = base
      | .ok document =>
          result = .ok () ∧
            settings = document.effective.overriding base ∧
            settings.dictionaries = document.dictionaries.or base.dictionaries ∧
            settings.plan = document.plan.or base.plan ∧
            (settings.strictArity = document.strictArity.getD base.strictArity ↔
              ¬ (document.strictArity = some false ∧ base.strictArity = true)) ∧
            (settings.verbosity = document.verbosity.getD base.verbosity ↔
              ¬ (document.verbosity = some 0 ∧ base.verbosity ≠ 0)) := by
  intro merging result settings
  cases given : SettingsFile.document tree path with
  | error fault =>
      have failed : merging = ((.error fault, base), tree) := by
        simp only [merging, mergeFile_apply, given]
      exact ⟨congrArg Prod.snd failed, congrArg (·.1.1) failed, congrArg (·.1.2) failed⟩
  | ok document =>
      have merged : merging = ((.ok (), document.effective.overriding base), tree) := by
        simp only [merging, mergeFile_apply, given, merge_settings]
      have ended : settings = document.effective.overriding base := congrArg (·.1.2) merged
      have arity := getD_filter_ne_iff false base.strictArity document.strictArity
      have level := getD_filter_ne_iff 0 base.verbosity document.verbosity
      rw [Bool.ne_false_iff] at arity
      refine ⟨congrArg Prod.snd merged, congrArg (·.1.1) merged, ended, ?_⟩
      rw [ended]
      exact ⟨rfl, rfl, arity, level⟩

/-- A file that gives the initial values of strict arity and verbosity changes
neither. -/
theorem initial_values_override_nothing :
    let text := "[resolve]\nstrict_arity = false\n\n[debug]\nverbosity = 0\n"
    let tree : FileTree := ⟨[(["c.toml"], .text text)], []⟩
    let base : Settings := ⟨none, none, true, 2⟩
    SettingsFile.document tree "c.toml" = .ok ⟨none, none, some false, some 0⟩ ∧
      ((mergeFile "c.toml").run base : StateM FileTree _) tree = ((.ok (), base), tree) := by
  intro text tree base
  have given : SettingsFile.document tree "c.toml" = .ok ⟨none, none, some false, some 0⟩ := by
    simp only [SettingsFile.document, FileTree.readText, FileTree.find, FileTree.checkPath_eq]
    decide +kernel
  refine ⟨given, ?_⟩
  rw [mergeFile_apply, given]
  rfl

end Settings

end RowFunctions
