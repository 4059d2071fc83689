import RowFunctions.Proofs.DictionaryArguments
import RowFunctions.Proofs.SavedSettings

/-!
# Paths that options shadow

A document that an option names shadows what the settings files and the environment
say about it.  This compares two runs with the same arguments whose surroundings may
differ in what they say about one document.  For dictionaries the option is put over
the other layers before the settings are checked, so nothing below it counts.  The
plan of a resolution is put over them only after the check, which still complains about
an empty path below; in all other cases the two runs end alike.
-/

namespace RowFunctions

/-- The settings that name a document. -/
inductive DocumentSetting where
  | dictionaries
  | plan
deriving DecidableEq

/-! ### Layers that leave a document out -/

def Settings.without (settings : Settings) : DocumentSetting → Settings
  | .dictionaries => { settings with dictionaries := none }
  | .plan => { settings with plan := none }

def SettingsDocument.without (document : SettingsDocument) : DocumentSetting → SettingsDocument
  | .dictionaries => { document with dictionaries := none }
  | .plan => { document with plan := none }

def Environment.without (environment : Environment) : DocumentSetting → Environment
  | .dictionaries => { environment with dictionaries := none }
  | .plan => { environment with plan := none }

theorem Settings.merge_without (settings other : Settings) (setting : DocumentSetting) :
    (settings.merge other).without setting =
      (settings.without setting).merge (other.without setting) := by
  cases setting <;> rfl

theorem Settings.mergeEnvironment_without (settings : Settings) (environment : Environment)
    (setting : DocumentSetting) :
    (settings.mergeEnvironment environment).without setting =
      (settings.without setting).mergeEnvironment (environment.without setting) := by
  cases setting <;> rfl

theorem SettingsDocument.settings_without (document : SettingsDocument)
    (setting : DocumentSetting) :
    document.settings.without setting = (document.without setting).settings := by
  cases setting <;> rfl

theorem SettingsFile.places_without (environment : Environment) (setting : DocumentSetting)
    (start : String) : places (environment.without setting) start = places environment start := by
  cases setting <;> rfl

/-- Where settings files are found does not depend on the documents. -/
theorem SettingsFile.found_without {environment other : Environment} {setting : DocumentSetting}
    (same : environment.without setting = other.without setting) (tree : FileTree) :
    found? environment tree = found? other tree := by
  unfold found?
  rw [← places_without environment setting, same, places_without]

section Overwriting

variable {tree : FileTree} {place : List String} {old : String}

/-- Where settings files are found does not depend on what they say. -/
theorem SettingsFile.found_overwritten (stands : tree.entry? place = some (.text old))
    (new : String) (environment : Environment) :
    found? environment (tree.put place (.text new)) = found? environment tree := by
  have present : (tree.put place (.text new)).isPresent = tree.isPresent :=
    funext (FileTree.isPresent_overwritten stands new)
  have working : (tree.put place (.text new)).workingDirectory = tree.workingDirectory := rfl
  unfold found?
  simp only [present, working, FileTree.canonical_overwritten stands]

/-- Overwriting a settings file so that it says the same but for a document. -/
theorem SettingsFile.document_overwritten (stands : tree.entry? place = some (.text old))
    {new path : String} {setting : DocumentSetting}
    (alike : ∀ format, format? path = some format →
      (format.read old).map (·.without setting) = (format.read new).map (·.without setting)) :
    (document tree path).map (·.without setting) =
      (document (tree.put place (.text new)) path).map (·.without setting) := by
  unfold document
  by_cases leads : tree.LeadsTo path place
  · rw [FileTree.readText_overwritten_of_leadsTo stands leads,
      FileTree.readText_of_leadsTo stands leads]
    simp only
    cases read : format? path with
    | none => rfl
    | some format => exact alike format read
  · rw [FileTree.readText_overwritten_of_not_leadsTo stands leads]

end Overwriting

namespace Invocation

/-- Options that do not name a plan go over settings with any plan. -/
theorem apply_without_plan (invocation : Invocation) (settings : Settings) :
    (invocation.apply settings).without .plan = invocation.apply (settings.without .plan) :=
  rfl

/-- An option that names dictionaries goes over whatever the settings name. -/
theorem apply_without_dictionaries {invocation : Invocation} {path : String}
    (given : invocation.dictionaries = some path) (settings : Settings) :
    invocation.apply (settings.without .dictionaries) = invocation.apply settings := by
  simp [apply, given, Settings.without]

end Invocation

/-! ### Programs that read alike in two file trees -/

/-- A program gives the same answer in two file trees and changes neither. -/
structure ReadsAlike {Answer : Type} (first second : FileTree)
    (program : StateM FileTree Answer) : Prop where
  answer : (program first).1 = (program second).1
  leavesFirst : (program first).2 = first
  leavesSecond : (program second).2 = second

namespace ReadsAlike

variable {first second : FileTree}

theorem pure {Answer : Type} (answer : Answer) :
    ReadsAlike first second (Pure.pure answer : StateM FileTree Answer) :=
  ⟨rfl, rfl, rfl⟩

theorem bind {Head Answer : Type} {head : StateM FileTree Head}
    {rest : Head → StateM FileTree Answer} (alike : ReadsAlike first second head)
    (goesOn : ∀ answer, ReadsAlike first second (rest answer)) :
    ReadsAlike first second (head >>= rest) := by
  constructor
  · rw [bind_apply, bind_apply, alike.leavesFirst, alike.leavesSecond, alike.answer]
    exact (goesOn _).answer
  · rw [bind_apply, alike.leavesFirst]
    exact (goesOn _).leavesFirst
  · rw [bind_apply, alike.leavesSecond]
    exact (goesOn _).leavesSecond

theorem readText {path : String} (same : first.readText path = second.readText path) :
    ReadsAlike first second (FileAccess.readText path) :=
  ⟨same, rfl, rfl⟩

section Commands

variable {settings : Settings}

theorem loadCatalog
    (same : ∀ path ∈ settings.dictionaries, first.readText path = second.readText path) :
    ReadsAlike first second (ToolCommand.loadCatalog settings) := by
  unfold ToolCommand.loadCatalog
  cases named : settings.dictionaries with
  | none => exact pure _
  | some path =>
      refine bind (bind (readText (same path named)) fun text => ?_) fun loaded => ?_
      · cases text <;> exact pure _
      · cases loaded <;> exact pure _

theorem loadPlan
    (same : ∀ path ∈ settings.plan, first.readText path = second.readText path) :
    ReadsAlike first second (ToolCommand.loadPlan settings) := by
  unfold ToolCommand.loadPlan
  cases named : settings.plan with
  | none => exact pure _
  | some path =>
      refine bind (readText (same path named)) fun text => ?_
      cases text with
      | error failure => exact pure _
      | ok text =>
          simp only
          cases Plan.parse? text <;> exact pure _

theorem resolveArgument
    (samePlan : ∀ path ∈ settings.plan, first.readText path = second.readText path)
    (sameDictionaries : ∀ path ∈ settings.dictionaries,
      first.readText path = second.readText path) (request : ResolveRequest) :
    ReadsAlike first second (ToolCommand.resolveArgument settings request) := by
  unfold ToolCommand.resolveArgument
  split
  · exact pure _
  · refine bind (loadPlan samePlan) fun plan => ?_
    cases plan with
    | error failure => exact pure _
    | ok plan =>
        refine bind ?_ fun catalog => ?_
        · unfold ToolCommand.loadCatalogIfNamed
          split
          · exact pure _
          · exact loadCatalog sameDictionaries
        · cases catalog <;> exact pure _

theorem decodeIds
    (same : ∀ path ∈ settings.dictionaries, first.readText path = second.readText path)
    (dictionary : DictionaryId) (ids : List StringId) :
    ReadsAlike first second (ToolCommand.decodeIds settings dictionary ids) := by
  refine bind (loadCatalog same) fun catalog => ?_
  cases catalog <;> exact pure _

theorem internValues
    (same : ∀ path ∈ settings.dictionaries, first.readText path = second.readText path)
    (dictionary : DictionaryId) (values : List String) :
    ReadsAlike first second (ToolCommand.internValues settings dictionary values) := by
  refine bind (loadCatalog same) fun catalog => ?_
  cases catalog <;> exact pure _

end Commands

end ReadsAlike

namespace ToolCommand

/-- The documents that a command reads under settings. -/
def documents (settings : Settings) : ToolCommand → List String
  | .resolve _ plan => (plan.or settings.plan).toList ++ settings.dictionaries.toList
  | .decode _ _ | .intern _ _ => settings.dictionaries.toList
  | .showSettings | .createSettings _ _ => []

/-- The file that a command writes. -/
def target? : ToolCommand → Option String
  | .createSettings path _ => some path
  | _ => none

end ToolCommand

/-- Settings that are saved in two file trees are saved in both or fail alike, if their
file has the same place in both. -/
theorem Settings.save_alike {settings : Settings} {path : String} {first second : FileTree}
    (same : first.writablePlace path = second.writablePlace path) :
    ((settings.save path : StateM FileTree _) first).1 =
      ((settings.save path : StateM FileTree _) second).1 := by
  rw [save_apply, save_apply]
  cases SettingsFile.writtenFormat? path with
  | none => rfl
  | some format =>
      simp only [FileTree.writeText, same]
      cases second.writablePlace path <;> rfl

/-- A command ends alike in two file trees if its documents read alike and its file has
the same place. -/
theorem Invocation.carryOut_alike {settings : Settings} {command : ToolCommand}
    {first second : FileTree}
    (reads : ∀ path ∈ command.documents settings, first.readText path = second.readText path)
    (writes : ∀ path ∈ command.target?, first.isPresent path = second.isPresent path ∧
      first.writablePlace path = second.writablePlace path) :
    ((carryOut settings command : StateM FileTree _) first).1 =
      ((carryOut settings command : StateM FileTree _) second).1 := by
  cases command with
  | resolve request plan =>
      have alike : ReadsAlike first second (ToolCommand.resolveArgument
          { settings with plan := plan.or settings.plan } request) := by
        apply ReadsAlike.resolveArgument
        · intro path named
          exact reads path (List.mem_append_left _ (Option.mem_toList.mpr named))
        · intro path named
          exact reads path (List.mem_append_right _ (Option.mem_toList.mpr named))
      exact (alike.bind fun outcome => ReadsAlike.pure _).answer
  | decode dictionary ids =>
      have same : ∀ path ∈ settings.dictionaries, first.readText path = second.readText path :=
        fun path named => reads path (Option.mem_toList.mpr named)
      exact ((ReadsAlike.decodeIds same dictionary ids).bind fun outcome =>
        ReadsAlike.pure _).answer
  | intern dictionary values =>
      have same : ∀ path ∈ settings.dictionaries, first.readText path = second.readText path :=
        fun path named => reads path (Option.mem_toList.mpr named)
      exact ((ReadsAlike.internValues same dictionary values).bind fun outcome =>
        ReadsAlike.pure _).answer
  | showSettings => rfl
  | createSettings path force =>
      obtain ⟨present, place⟩ := writes path rfl
      have asked (tree : FileTree) : (FileAccess.isPresent path : StateM FileTree _) tree =
          (tree.isPresent path, tree) := rfl
      simp only [carryOut, ToolCommand.createSettingsFile, bind_apply, asked, present]
      cases second.isPresent path && !force with
      | true => rfl
      | false =>
          have saved : ((Settings.initial.save path : StateM FileTree _) first).1 =
              ((Settings.initial.save path : StateM FileTree _) second).1 :=
            Settings.save_alike place
          simp only [Bool.false_eq_true, if_false, bind_apply, saved]
          cases ((Settings.initial.save path : StateM FileTree _) second).1 <;> rfl

/-! ### Runs in two surroundings -/

/-- What a run finds besides its arguments: the build of the program, the environment and
the files. -/
structure Surroundings where
  build : BuildInformation
  environment : Environment
  tree : FileTree

namespace Surroundings

/-- How the program ends with some arguments. -/
def run (surroundings : Surroundings) (arguments : List String) : ProgramOutcome :=
  ((runProgram surroundings.build surroundings.environment arguments : StateM FileTree _)
    surroundings.tree).1

/-- What the settings file says that a search finds. -/
def foundDocument (surroundings : Surroundings) : Except SettingsFault SettingsDocument :=
  SettingsFile.documentOf surroundings.tree
    (SettingsFile.found? surroundings.environment surroundings.tree)

/-- What the settings file says that an invocation names. -/
def namedDocument (surroundings : Surroundings) (invocation : Invocation) :
    Except SettingsFault SettingsDocument :=
  SettingsFile.documentOf surroundings.tree invocation.settingsFile

/-- The settings that the layers below the options give. -/
def lowerSettings (surroundings : Surroundings) (invocation : Invocation) :
    Except SettingsFault Settings :=
  invocation.lowerSettings surroundings.environment surroundings.tree

/-- Two surroundings agree for an invocation but for what the environment and the two
settings files say about one document.  A settings file that cannot be understood has to
be the same text in both.  The documents themselves read alike, and a file that is to be
created has the same place. -/
structure AgreeBut (setting : DocumentSetting) (invocation : Invocation)
    (first second : Surroundings) : Prop where
  environment : first.environment.without setting = second.environment.without setting
  found : first.foundDocument.map (·.without setting) =
    second.foundDocument.map (·.without setting)
  named : (first.namedDocument invocation).map (·.without setting) =
    (second.namedDocument invocation).map (·.without setting)
  documents : ∀ settings, invocation.layers first.environment first.tree = .ok settings →
    ∀ path ∈ invocation.command.documents settings,
      first.tree.readText path = second.tree.readText path
  target : ∀ path ∈ invocation.command.target?,
    first.tree.isPresent path = second.tree.isPresent path ∧
      first.tree.writablePlace path = second.tree.writablePlace path

section Agreement

variable {build otherBuild : BuildInformation} {environment other : Environment}

/-- Changing what the environment says about a document changes nothing else. -/
theorem agreeBut_of_environment {setting : DocumentSetting}
    (same : environment.without setting = other.without setting) (tree : FileTree)
    (invocation : Invocation) :
    AgreeBut setting invocation ⟨build, environment, tree⟩ ⟨otherBuild, other, tree⟩ := by
  refine ⟨same, ?_, rfl, fun _ _ _ _ => rfl, fun _ _ => ⟨rfl, rfl⟩⟩
  simp only [foundDocument, SettingsFile.found_without same]

/-- Overwriting a settings file so that it says something else about a document changes
nothing else, if the file is none of the documents. -/
theorem agreeBut_of_overwritten {setting : DocumentSetting} {invocation : Invocation}
    {tree : FileTree} {place : List String} {old new : String}
    (same : environment.without setting = other.without setting)
    (stands : tree.entry? place = some (.text old))
    (alike : ∀ path, SettingsFile.found? environment tree = some path ∨
        invocation.settingsFile = some path →
      ∀ format, SettingsFile.format? path = some format →
        (format.read old).map (·.without setting) = (format.read new).map (·.without setting))
    (apart : ∀ settings, invocation.layers environment tree = .ok settings →
      ∀ path ∈ invocation.command.documents settings, ¬ tree.LeadsTo path place) :
    AgreeBut setting invocation ⟨build, environment, tree⟩
      ⟨otherBuild, other, tree.put place (.text new)⟩ := by
  have found : SettingsFile.found? other (tree.put place (.text new)) =
      SettingsFile.found? environment tree := by
    rw [SettingsFile.found_overwritten stands]
    exact (SettingsFile.found_without same tree).symm
  constructor
  · exact same
  · simp only [foundDocument, found]
    cases searched : SettingsFile.found? environment tree with
    | none => rfl
    | some path => exact SettingsFile.document_overwritten stands (alike path (.inl searched))
  · simp only [namedDocument]
    cases named : invocation.settingsFile with
    | none => rfl
    | some path => exact SettingsFile.document_overwritten stands (alike path (.inr named))
  · intro settings loaded path member
    exact (FileTree.readText_overwritten_of_not_leadsTo stands (apart settings loaded path member)
      new).symm
  · intro path target
    exact ⟨(FileTree.isPresent_overwritten stands new path).symm,
      (FileTree.writablePlace_overwritten stands new path).symm⟩

end Agreement

/-- What the lower layers give apart from a document comes from what they say apart from
it. -/
theorem lowerSettings_without (surroundings : Surroundings) (invocation : Invocation)
    (setting : DocumentSetting) :
    (surroundings.lowerSettings invocation).map (·.without setting) =
      (surroundings.foundDocument.map (·.without setting)).bind fun found =>
        ((surroundings.namedDocument invocation).map (·.without setting)).map fun named =>
          (found.settings.mergeEnvironment (surroundings.environment.without setting)).merge
            named.settings := by
  unfold lowerSettings Invocation.lowerSettings foundDocument namedDocument
  cases SettingsFile.documentOf surroundings.tree
      (SettingsFile.found? surroundings.environment surroundings.tree) with
  | error fault => rfl
  | ok found =>
      cases SettingsFile.documentOf surroundings.tree invocation.settingsFile with
      | error fault => rfl
      | ok named =>
          simp only [Except.map, Except.bind, Settings.merge_without,
            Settings.mergeEnvironment_without, SettingsDocument.settings_without]

theorem AgreeBut.lowerSettings {setting : DocumentSetting} {invocation : Invocation}
    {first second : Surroundings} (agree : AgreeBut setting invocation first second) :
    (first.lowerSettings invocation).map (·.without setting) =
      (second.lowerSettings invocation).map (·.without setting) := by
  rw [lowerSettings_without, lowerSettings_without, agree.environment, agree.found, agree.named]

theorem layers_of_lowerSettings {surroundings : Surroundings} {invocation : Invocation}
    {lower : Settings} (gives : surroundings.lowerSettings invocation = .ok lower) :
    invocation.layers surroundings.environment surroundings.tree =
      .ok (invocation.apply lower) := by
  rw [Invocation.layers, ← lowerSettings, gives]
  rfl

theorem lowerSettings_of_unnamed {invocation : Invocation} {surroundings : Surroundings}
    {document : SettingsDocument} (unnamed : invocation.settingsFile = none)
    (found : surroundings.foundDocument = .ok document) :
    surroundings.lowerSettings invocation =
      .ok (document.settings.mergeEnvironment surroundings.environment) := by
  rw [lowerSettings, Invocation.lowerSettings, ← foundDocument, found, unnamed]
  rfl

/-- A run puts its options over the lower layers, checks the settings and carries out its
command. -/
theorem run_of_parse {arguments : List String} {invocation : Invocation}
    (understood : Invocation.parse arguments = .ok invocation) (surroundings : Surroundings) :
    surroundings.run arguments =
      match surroundings.lowerSettings invocation with
      | .error fault => .failure "" (.settings fault)
      | .ok lower =>
          match (invocation.apply lower).validate with
          | .error fault => .failure "" (.settings fault)
          | .ok () =>
              ((Invocation.carryOut (invocation.apply lower) invocation.command :
                StateM FileTree _) surroundings.tree).1 := by
  unfold run runProgram
  simp only [asksForBuild_of_parse understood, Bool.false_eq_true, if_false, understood,
    Invocation.run_apply, Invocation.layers, lowerSettings]
  cases invocation.lowerSettings surroundings.environment surroundings.tree with
  | error fault => rfl
  | ok lower =>
      simp only [Except.map, Except.bind]
      cases (invocation.apply lower).validate <;> rfl

/-- Two settings that differ in the plan only are in order or not for the same reason,
unless the plan of one of them is empty and nothing else is wrong with it. -/
theorem validate_of_without_plan {first second : Settings}
    (same : first.without .plan = second.without .plan) :
    first.validate = second.validate ∨
      ∃ settings ∈ [first, second], settings.plan = some "" ∧
        settings.validate = .error .emptyPlanPath := by
  obtain ⟨dictionaries, plan, strictArity, verbosity⟩ := first
  obtain ⟨otherDictionaries, otherPlan, otherArity, otherVerbosity⟩ := second
  simp only [Settings.without, Settings.mk.injEq, true_and] at same
  obtain ⟨rfl, rfl, rfl⟩ := same
  unfold Settings.validate
  by_cases high : Settings.maximalVerbosity < verbosity
  · simp [high]
  · by_cases noDictionaries : dictionaries = some ""
    · simp [high, noDictionaries]
    · by_cases empty : plan = some "" <;> by_cases otherEmpty : otherPlan = some "" <;>
        simp [high, noDictionaries, empty, otherEmpty]

theorem map_eq_map_cases {Fault Value Part : Type} {f : Value → Part}
    {first second : Except Fault Value} (same : first.map f = second.map f) :
    (∃ fault, first = .error fault ∧ second = .error fault) ∨
      ∃ value other, first = .ok value ∧ second = .ok other ∧ f value = f other := by
  cases first <;> cases second <;> simp_all [Except.map]

theorem carryOut_resolve_of_without_plan {first second : Settings}
    (same : first.without .plan = second.without .plan) (request : ResolveRequest)
    (path : String) :
    (Invocation.carryOut first (.resolve request (some path)) : StateM FileTree _) =
      Invocation.carryOut second (.resolve request (some path)) := by
  have settings : { first with plan := some path } = { second with plan := some path } :=
    congrArg (fun settings : Settings => { settings with plan := some path }) same
  simp only [Invocation.carryOut, Option.some_or, settings]

section Shadowing

variable {arguments : List String} {invocation : Invocation} {first second : Surroundings}

/-- Two resolutions with a named plan end alike, unless one of them fails for an empty
plan in its lower layers. -/
theorem run_eq_or_emptyPlanPath (understood : Invocation.parse arguments = .ok invocation)
    {request : ResolveRequest} {path : String}
    (command : invocation.command = .resolve request (some path))
    (agree : AgreeBut .plan invocation first second) :
    first.run arguments = second.run arguments ∨
      ∃ surroundings ∈ [first, second],
        (∃ settings, surroundings.lowerSettings invocation = .ok settings ∧
          settings.plan = some "") ∧
        surroundings.run arguments = .failure "" (.settings .emptyPlanPath) := by
  have runs := run_of_parse understood
  rcases map_eq_map_cases agree.lowerSettings with
    ⟨fault, firstFails, secondFails⟩ | ⟨lower, other, firstGives, secondGives, same⟩
  · left
    rw [runs, runs, firstFails, secondFails]
  · have applied : (invocation.apply lower).without .plan =
        (invocation.apply other).without .plan := by
      rw [Invocation.apply_without_plan, Invocation.apply_without_plan, same]
    rcases validate_of_without_plan applied with alike | ⟨settings, member, empty, refused⟩
    · left
      rw [runs, runs, firstGives, secondGives]
      simp only [alike, command]
      cases (invocation.apply other).validate with
      | error fault => rfl
      | ok checked =>
          -- The named plan replaces whatever plan passed the check.
          rw [← carryOut_resolve_of_without_plan applied, ← command]
          exact Invocation.carryOut_alike
            (agree.documents _ (layers_of_lowerSettings firstGives)) agree.target
    · right
      simp only [List.mem_cons, List.not_mem_nil, or_false] at member
      rcases member with rfl | rfl
      · refine ⟨first, by simp, ⟨lower, firstGives, empty⟩, ?_⟩
        rw [runs, firstGives]
        simp only [refused]
      · refine ⟨second, by simp, ⟨other, secondGives, empty⟩, ?_⟩
        rw [runs, secondGives]
        simp only [refused]

/-- Two runs with named dictionaries end alike. -/
theorem run_eq_of_dictionaries (understood : Invocation.parse arguments = .ok invocation)
    {path : String} (given : invocation.dictionaries = some path)
    (agree : AgreeBut .dictionaries invocation first second) :
    first.run arguments = second.run arguments := by
  have runs := run_of_parse understood
  rcases map_eq_map_cases agree.lowerSettings with
    ⟨fault, firstFails, secondFails⟩ | ⟨lower, other, firstGives, secondGives, same⟩
  · rw [runs, runs, firstFails, secondFails]
  · -- The option is put over the lower layers before the check, so that the settings agree.
    have applied : invocation.apply lower = invocation.apply other := by
      rw [← Invocation.apply_without_dictionaries given lower, same,
        Invocation.apply_without_dictionaries given]
    rw [runs, runs, firstGives, secondGives]
    simp only [← applied]
    cases (invocation.apply lower).validate with
    | error fault => rfl
    | ok checked =>
        exact Invocation.carryOut_alike
          (agree.documents _ (layers_of_lowerSettings firstGives)) agree.target

end Shadowing

/-- A document that an option names shadows what the lower layers say about it.  Runs
with named dictionaries end alike whatever dictionaries the environment and the settings
files name.  Resolutions with a named plan end alike whatever plan those name, unless
they leave an empty plan to one of the runs and it fails for that reason. -/
theorem option_shadows_lower_layers {arguments : List String} {invocation : Invocation}
    (understood : Invocation.parse arguments = .ok invocation) (first second : Surroundings) :
    (∀ request path, invocation.command = .resolve request (some path) →
      AgreeBut .plan invocation first second →
      first.run arguments = second.run arguments ∨
        ∃ surroundings ∈ [first, second],
          (∃ settings, surroundings.lowerSettings invocation = .ok settings ∧
            settings.plan = some "") ∧
          surroundings.run arguments = .failure "" (.settings .emptyPlanPath)) ∧
    ∀ path, invocation.dictionaries = some path →
      AgreeBut .dictionaries invocation first second →
      first.run arguments = second.run arguments :=
  ⟨fun _ _ command agree => run_eq_or_emptyPlanPath understood command agree,
    fun _ given agree => run_eq_of_dictionaries understood given agree⟩

/-- A plan and dictionaries named by the options, with other ones below. -/
theorem option_shadows_lower_layers_of_found_file :
    let text := "[plan]\npath = \"a.json\"\n"
    let tree : FileTree := ⟨[(["rowfn.toml"], .text text), (["unit.json"], .text "\x7b\x7d"),
      (["names.json"], .text "\x7b\x7d")], []⟩
    let build : BuildInformation := ⟨"0.1.0", none, none, none⟩
    let first : Surroundings := ⟨build, ⟨none, none, none, none, none, none, none⟩, tree⟩
    let second : Surroundings := ⟨build, ⟨none, none, none, some "b.json", none, none, none⟩,
      tree.put ["rowfn.toml"] (.text "# nothing\n")⟩
    let third : Surroundings := ⟨build, ⟨none, none, some "", none, none, none, none⟩,
      tree.put ["rowfn.toml"] (.text "dictionaries.path = \"\"\nplan.path = \"a.json\"\n")⟩
    let arguments := ["resolve", "pad", "0", "--plan", "unit.json", "-d", "names.json"]
    first.run arguments = second.run arguments ∧ first.run arguments = third.run arguments := by
  intro text tree build first second third arguments
  let invocation : Invocation :=
    ⟨none, some "names.json", 0, .resolve ⟨"pad", 0, none, false⟩ (some "unit.json")⟩
  have understood : Invocation.parse arguments = .ok invocation := by decide +kernel
  have stands : tree.entry? ["rowfn.toml"] = some (.text text) := by decide +kernel
  have searched : tree.find "/rowfn.toml" = .ok (["rowfn.toml"], .text text) := by
    simp only [FileTree.find, FileTree.checkPath_eq]
    decide +kernel
  have found : SettingsFile.found? first.environment tree = some "/rowfn.toml" := by
    have working : FilePath.join (FilePath.ofParts tree.workingDirectory) "rowfn.toml" =
        "/rowfn.toml" := by decide +kernel
    have present : tree.isPresent "/rowfn.toml" = true := by rw [FileTree.isPresent, searched]; rfl
    rw [SettingsFile.found?_of_present working present, FileTree.canonical?, searched]
    rfl
  have format : SettingsFile.format? "/rowfn.toml" = some .toml := by decide +kernel
  have elsewhere (path name : String) (reached : (tree.find path).map Prod.fst = .ok [name])
      (different : [name] ≠ ["rowfn.toml"]) : ¬ tree.LeadsTo path ["rowfn.toml"] := by
    rintro ⟨entry, leads⟩
    rw [leads] at reached
    exact different (Except.ok.inj reached).symm
  have apart : ∀ settings, invocation.layers first.environment tree = .ok settings →
      ∀ path ∈ invocation.command.documents settings, ¬ tree.LeadsTo path ["rowfn.toml"] := by
    intro settings loaded path member
    have named : settings.dictionaries = some "names.json" := by
      rw [Invocation.layers] at loaded
      cases below : invocation.lowerSettings first.environment tree with
      | error fault => rw [below] at loaded; cases loaded
      | ok lower => rw [below] at loaded; cases loaded; rfl
    simp only [ToolCommand.documents, invocation, named, Option.some_or, Option.toList_some,
      List.mem_append, List.mem_singleton] at member
    rcases member with rfl | rfl
    · refine elsewhere "unit.json" "unit.json" ?_ (by decide)
      simp only [FileTree.find, FileTree.checkPath_eq]
      decide +kernel
    · refine elsewhere "names.json" "names.json" ?_ (by decide)
      simp only [FileTree.find, FileTree.checkPath_eq]
      decide +kernel
  have agree (setting : DocumentSetting) (environment : Environment) (new : String)
      (same : first.environment.without setting = environment.without setting)
      (alike : (SettingsFormat.toml.read text).map (·.without setting) =
        (SettingsFormat.toml.read new).map (·.without setting)) :
      AgreeBut setting invocation first
        ⟨build, environment, tree.put ["rowfn.toml"] (.text new)⟩ := by
    refine agreeBut_of_overwritten same stands ?_ apart
    rintro path (here | named) read understands
    · cases found.symm.trans here
      cases format.symm.trans understands
      exact alike
    · cases named
  have unnamed : invocation.settingsFile = none := rfl
  have firstFound : first.foundDocument = .ok ⟨none, some "a.json", none, none⟩ := by
    simp only [foundDocument, first, found, SettingsFile.documentOf, SettingsFile.document,
      FileTree.readText, searched, format]
    decide +kernel
  have secondFound : second.foundDocument = .ok ⟨none, none, none, none⟩ := by
    have foundToo : SettingsFile.found? second.environment second.tree = some "/rowfn.toml" :=
      (SettingsFile.found_overwritten stands _ _).trans found
    have reread : second.tree.readText "/rowfn.toml" = .ok "# nothing\n" :=
      FileTree.readText_overwritten_of_leadsTo stands ⟨_, searched⟩ _
    simp only [foundDocument, foundToo, SettingsFile.documentOf, SettingsFile.document, reread,
      format]
    decide +kernel
  obtain ⟨samePlans, -⟩ := option_shadows_lower_layers understood first second
  obtain ⟨-, sameDictionaries⟩ := option_shadows_lower_layers understood first third
  constructor
  · rcases samePlans _ _ rfl (agree .plan _ _ rfl (by decide +kernel)) with
      same | ⟨surroundings, member, ⟨settings, below, noPlan⟩, -⟩
    · exact same
    · simp only [List.mem_cons, List.not_mem_nil, or_false] at member
      rcases member with rfl | rfl
      · cases (lowerSettings_of_unnamed unnamed firstFound).symm.trans below
        have named : some "a.json" ≠ some "" := by decide
        exact absurd noPlan named
      · cases (lowerSettings_of_unnamed unnamed secondFound).symm.trans below
        have named : some "b.json" ≠ some "" := by decide
        exact absurd noPlan named
  · exact sameDictionaries _ rfl (agree .dictionaries _ _ rfl (by decide +kernel))

/-- An empty plan in the environment stops a resolution that names its plan. -/
theorem empty_plan_below_option_decides :
    let unit := "\x7b\"target_exprs\":[\x7b\"expr\":\"function_oper\",\"name\":\"pad\"," ++
      "\"type_info\":\x7b\"kind\":\"text\"\x7d,\"args\":[\x7b\"expr\":\"column_var\"," ++
      "\"column\":\"city\",\"type_info\":\x7b\"kind\":\"text\",\"encoding\":\"dict\"," ++
      "\"comp_param\":4\x7d\x7d]\x7d]\x7d"
    let tree : FileTree := ⟨[(["unit.json"], .text unit)], []⟩
    let build : BuildInformation := ⟨"0.1.0", none, none, none⟩
    let first : Surroundings := ⟨build, ⟨none, none, none, none, none, none, none⟩, tree⟩
    let second : Surroundings := ⟨build, ⟨none, none, none, some "", none, none, none⟩, tree⟩
    let invocation : Invocation :=
      ⟨none, none, 0, .resolve ⟨"pad", 0, none, false⟩ (some "unit.json")⟩
    let arguments := ["resolve", "pad", "0", "--plan", "unit.json"]
    Invocation.parse arguments = .ok invocation ∧ AgreeBut .plan invocation first second ∧
      first.run arguments = .success "4\n" ∧
      second.run arguments = .failure "" (.settings .emptyPlanPath) := by
  intro unit tree build first second invocation arguments
  have understood : Invocation.parse arguments = .ok invocation := by decide +kernel
  have absent : ∀ path ∈ SettingsFile.places first.environment
      (FilePath.ofParts tree.workingDirectory), tree.isPresent path = false := by
    simp only [FileTree.isPresent, FileTree.find, FileTree.checkPath_eq]
    decide +kernel
  have firstGives : first.lowerSettings invocation = .ok ⟨none, none, false, 0⟩ :=
    Invocation.lowerSettings_of_absent absent rfl
  have secondGives : second.lowerSettings invocation = .ok ⟨none, some "", false, 0⟩ :=
    Invocation.lowerSettings_of_absent absent rfl
  have readable : tree.readText "unit.json" = .ok unit := by
    simp only [FileTree.readText, FileTree.find, FileTree.checkPath_eq]
    decide +kernel
  have same : first.environment.without .plan = second.environment.without .plan := rfl
  have answers : (Plan.parse? unit).map (fun plan => ProgramOutcome.ofCommand
      ((⟨"pad", 0, none, false⟩ : ResolveRequest).answer plan)) = some (.success "4\n") := by
    decide +kernel
  obtain ⟨plan, parsed, answered⟩ := Option.map_eq_some_iff.mp answers
  have resolved : (ToolCommand.resolveArgument ⟨none, some "unit.json", false, 0⟩
      ⟨"pad", 0, none, false⟩ : StateM FileTree _) tree = (_, tree) :=
    ToolCommand.resolveArgument_of_loaded rfl
      (ToolCommand.loadPlan_of_parse rfl readable parsed) rfl
  refine ⟨understood, agreeBut_of_environment same tree invocation, ?_, ?_⟩
  · rw [run_of_parse understood, firstGives, ← answered]
    exact congrArg (fun outcome => ProgramOutcome.ofCommand outcome.1) resolved
  · rw [run_of_parse understood, secondGives]
    rfl

end Surroundings

end RowFunctions
