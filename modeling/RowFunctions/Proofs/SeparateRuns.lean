import RowFunctions.Proofs.DictionaryArguments
import RowFunctions.Proofs.FreshQueries
import RowFunctions.Proofs.SettingsLayers
import RowFunctions.Proofs.WrittenFiles

/-!
# Identifiers passed from one run to another

Every run of the program starts a query of its own.  What a run prints for
interned values depends on the dictionary document alone, and a later run on the
same document decodes the printed identifiers of stored values.  A transient
identifier does not outlive its run: the first one makes the later run fail
before it has printed anything.

A run finds its document by way of a settings file, the environment and options.
Looking for the settings only reads files, so nothing but the text of the
document counts.
-/

namespace RowFunctions

/-- The line of an interned value tells whether a document lists the value, if its
identifier does. -/
theorem DictionaryCatalog.internedLines_of_kinds {strings values : List String}
    {idOf : String → StringId}
    (kinds : ∀ value ∈ values, (StringId.isTransient (idOf value) = true ↔ value ∉ strings)) :
    List.zipWith internedLine values (values.map idOf) =
      List.zipWith (fun value id => value ++ "\t" ++ Numeral.ofInt32 id ++ "\t" ++
        (if value ∈ strings then "persistent" else "transient") ++ "\n")
        values (values.map idOf) := by
  simp only [List.zipWith_map_right, List.zipWith_self]
  refine List.map_congr_left fun value used => ?_
  by_cases stands : value ∈ strings <;> simp [internedLine, kinds value used, stands]

/-! ### Runs on a dictionary document -/

/-- What a run starts with: the build of the program, the environment, the files and
the options that name documents. -/
structure ProgramStart where
  build : BuildInformation
  environment : Environment
  tree : FileTree
  options : DocumentOptions

namespace ProgramStart

/-- Run the program with a command behind the options. -/
def run (start : ProgramStart) (command : List String) : ProgramOutcome × FileTree :=
  (runProgram start.build start.environment (start.options.arguments ++ command) :
    StateM FileTree _) start.tree

/-- The settings that a run works with, whatever its command. -/
def settings (start : ProgramStart) : Except SettingsFault Settings :=
  ((start.options.invocation .showSettings).settings start.environment : StateM FileTree _)
    start.tree |>.1

/-- The settings are in order and name a dictionary document with a given text. -/
def WorksOn (start : ProgramStart) (text : String) : Prop :=
  ∃ settings path, start.settings = .ok settings ∧ settings.validate = .ok () ∧
    settings.dictionaries = some path ∧ start.tree.readText path = .ok text

/-- A run whose settings are in order carries out its command under them. -/
theorem run_eq_carryOut {start : ProgramStart} {settings : Settings}
    (loaded : start.settings = .ok settings) (valid : settings.validate = .ok ())
    {words : List String} {command : ToolCommand}
    (understood : Invocation.parse (start.options.arguments ++ words) =
      .ok (start.options.invocation command)) :
    start.run words = (Invocation.carryOut settings command : StateM FileTree _) start.tree := by
  -- The settings do not depend on the command, and looking for them changes no file.
  have searched : ((start.options.invocation command).settings start.environment :
      StateM FileTree _) start.tree = (.ok settings, start.tree) :=
    Prod.ext loaded (by rw [Invocation.settings_apply])
  rw [run, runProgram, if_neg (by simp [asksForBuild_of_parse understood]), understood]
  simp only [Invocation.run, bind_apply, searched, valid]
  rfl

/-- A run on a document ends as its command does once the catalog of the document is
loaded. -/
theorem run_on_document {start : ProgramStart} {text : String} (works : start.WorksOn text)
    {catalog : DictionaryCatalog} (accepted : DictionaryCatalog.parse text = .ok catalog)
    {words : List String} {command : ToolCommand} {outcome : ProgramOutcome}
    (understood : Invocation.parse (start.options.arguments ++ words) =
      .ok (start.options.invocation command))
    (ends : ∀ settings,
      (ToolCommand.loadCatalog settings : StateM FileTree _) start.tree =
        (.ok catalog, start.tree) →
      (Invocation.carryOut settings command : StateM FileTree _) start.tree =
        (outcome, start.tree)) :
    start.run words = (outcome, start.tree) := by
  obtain ⟨settings, path, loaded, valid, named, readable⟩ := works
  rw [run_eq_carryOut loaded valid understood]
  exact ends settings (ToolCommand.loadCatalog_of_parse named readable accepted)

theorem run_decode {start : ProgramStart} {text : String} (works : start.WorksOn text)
    {catalog : DictionaryCatalog} (accepted : DictionaryCatalog.parse text = .ok catalog)
    (dictionary : DictionaryId) {ids : List StringId} (notEmpty : ids ≠ []) :
    start.run ("decode" :: Numeral.ofInt32 dictionary :: ids.map Numeral.ofInt32) =
      (.ofCommand (catalog.printDecoded dictionary ids), start.tree) := by
  have understood := start.options.parse_decode dictionary notEmpty
  refine run_on_document works accepted understood fun settings loaded => ?_
  simp only [Invocation.carryOut, ToolCommand.decodeIds, bind_apply, loaded]
  rfl

theorem run_intern {start : ProgramStart} {text : String} (works : start.WorksOn text)
    {catalog : DictionaryCatalog} (accepted : DictionaryCatalog.parse text = .ok catalog)
    (dictionary : DictionaryId) {values : List String} (notEmpty : values ≠ []) :
    start.run ("intern" :: Numeral.ofInt32 dictionary :: "--" :: values) =
      (.ofCommand (catalog.printInterned dictionary values), start.tree) := by
  have understood := start.options.parse_intern dictionary notEmpty
  refine run_on_document works accepted understood fun settings loaded => ?_
  simp only [Invocation.carryOut, ToolCommand.internValues, bind_apply, loaded]
  rfl

/-! ### Settings without a settings file -/

/-- Without a settings file the environment and the options decide. -/
theorem settings_of_absent {start : ProgramStart}
    (absent : ∀ path ∈ SettingsFile.places start.environment
        (FilePath.ofParts start.tree.workingDirectory), start.tree.isPresent path = false)
    (unnamed : start.options.settingsFile = none) :
    start.settings = .ok ((start.options.invocation .showSettings).apply
      (Settings.initial.mergeEnvironment start.environment)) := by
  rw [settings, Invocation.settings_apply]
  exact Invocation.layers_of_absent absent unnamed

/-- Runs on one dictionary document agree about identifiers.  Whatever values a run
interns, it prints a line for each of them, with its identifier and the kind that the
document gives it, unless the identifiers run out.  A later run decodes the printed
identifiers and prints a line for each if all of them are stored; otherwise it fails at
the first transient one and prints nothing.  No run changes a file. -/
theorem printed_ids_decode_in_later_runs {text : String} {catalog : DictionaryCatalog}
    (accepted : DictionaryCatalog.parse text = .ok catalog) :
    ∃ document, Json.parse? text = some document ∧ ∀ dictionary strings,
      DictionaryCatalog.listFor? document dictionary = some strings → ∀ values, values ≠ [] →
        let intern := "intern" :: Numeral.ofInt32 dictionary :: "--" :: values
        if (values.filter (· ∉ strings)).toFinset.card ≤ 2 ^ 31 - 2 then
          let ids := values.map (DictionaryCatalog.printedId strings values)
          List.Forall₂
              (fun value id => StringId.isTransient id = true ↔ value ∉ strings) values ids ∧
            ∀ start : ProgramStart, start.WorksOn text →
              start.run intern =
                (⟨0, String.join (List.zipWith (fun value id =>
                    value ++ "\t" ++ Numeral.ofInt32 id ++ "\t" ++
                      (if value ∈ strings then "persistent" else "transient") ++ "\n")
                  values ids), none⟩, start.tree) ∧
              start.run ("decode" :: Numeral.ofInt32 dictionary :: ids.map Numeral.ofInt32) =
                (match ids.find? StringId.isTransient with
                  | none =>
                      ⟨0, String.join (List.zipWith (fun id value =>
                        Numeral.ofInt32 id ++ "\t" ++ value ++ "\n") ids values), none⟩
                  | some id =>
                      ⟨1, "", some (.failure (.query (.dictionary (.unknownString dictionary id))))⟩,
                  start.tree)
        else
          ∀ start : ProgramStart, start.WorksOn text →
            start.run intern =
              (⟨1, "", some (.failure (.query (.dictionary (.noIdsLeft dictionary))))⟩,
                start.tree) := by
  obtain ⟨document, parsed, -⟩ := DictionaryCatalog.get?_of_parse accepted
  refine ⟨document, parsed, fun dictionary strings listed values notEmpty => ?_⟩
  intro interning
  obtain ⟨stored, known, rfl, inverse, held⟩ :=
    DictionaryCatalog.exists_get?_of_listFor? accepted parsed listed
  have interned : catalog.intern stored.id values = _ :=
    DictionaryCatalog.intern_of_listed held known
  have bounds : stored.HasRoom values ↔ _ := DictionaryCatalog.hasRoom_iff_of_listed held
  split
  · next bounded =>
      intro ids
      have room := bounds.mpr bounded
      have kinds (value : String) (used : value ∈ values) :=
        DictionaryCatalog.isTransient_printedId_iff held inverse room used
      have decoded := DictionaryCatalog.decode_of_listed held known inverse room
      rw [if_pos room] at interned
      refine ⟨?_, fun start works => ⟨?_, ?_⟩⟩
      · rw [List.forall₂_map_right_iff, List.forall₂_same]
        exact kinds
      · rw [run_intern works accepted stored.id notEmpty, DictionaryCatalog.printInterned,
          interned, ← DictionaryCatalog.internedLines_of_kinds kinds]
        rfl
      · rw [run_decode works accepted stored.id (by simpa [ids] using notEmpty),
          DictionaryCatalog.printDecoded, decoded]
        simp only [ids]
        cases (values.map (DictionaryCatalog.printedId strings values)).find?
          StringId.isTransient <;> rfl
  · next unbounded =>
      intro start works
      rw [if_neg (mt bounds.mp unbounded)] at interned
      rw [run_intern works accepted stored.id notEmpty, DictionaryCatalog.printInterned, interned]
      rfl

/-- The values may look like options, and the document may be named in different
ways.  The identifier of a value that the document does not list is of no use to another
run, those of the others are. -/
theorem printed_ids_decode_in_later_runs_of_dashes :
    let text := "\x7b\"7\": [\"alpha\", \"beta\", \"alpha\"]\x7d"
    let build : BuildInformation := ⟨"0.1.0", none, none, none⟩
    let first : ProgramStart :=
      ⟨build, ⟨none, none, none, none, none, none, none⟩, ⟨[(["names.json"], .text text)], []⟩,
        ⟨none, some "/names.json", by decide, by decide⟩⟩
    let later : ProgramStart :=
      ⟨build, ⟨none, none, some "names.json", none, none, none, none⟩,
        ⟨[(["data"], .directory), (["data", "names.json"], .text text)], ["data"]⟩,
        ⟨none, none, by decide, by decide⟩⟩
    first.WorksOn text ∧ later.WorksOn text ∧
      first.run ["intern", "7", "--", "beta", "-n", "alpha", "-n"] =
        (⟨0, "beta\t1\tpersistent\n-n\t-2\ttransient\n" ++
          "alpha\t0\tpersistent\n-n\t-2\ttransient\n", none⟩, first.tree) ∧
      later.run ["decode", "7", "1", "-2", "0", "-2"] =
        (⟨1, "", some (.failure (.query (.dictionary (.unknownString 7 (-2)))))⟩, later.tree) ∧
      first.run ["intern", "7", "--", "beta", "alpha"] =
        (⟨0, "beta\t1\tpersistent\nalpha\t0\tpersistent\n", none⟩, first.tree) ∧
      later.run ["decode", "7", "1", "0"] = (⟨0, "1\tbeta\n0\talpha\n", none⟩, later.tree) := by
  intro text build first later
  have firstWorks : first.WorksOn text := by
    refine ⟨⟨some "/names.json", none, false, 0⟩, "/names.json", settings_of_absent ?_ rfl,
      by decide, rfl, ?_⟩
    · simp only [FileTree.isPresent, FileTree.find, FileTree.checkPath_eq]
      decide +kernel
    · simp only [FileTree.readText, FileTree.find, FileTree.checkPath_eq]
      decide +kernel
  have laterWorks : later.WorksOn text := by
    refine ⟨⟨some "names.json", none, false, 0⟩, "names.json", settings_of_absent ?_ rfl,
      by decide, rfl, ?_⟩
    · simp only [FileTree.isPresent, FileTree.find, FileTree.checkPath_eq]
      decide +kernel
    · simp only [FileTree.readText, FileTree.find, FileTree.checkPath_eq]
      decide +kernel
  let catalog : DictionaryCatalog := ⟨[⟨7, ⟨["alpha", "beta"], [("beta", 1), ("alpha", 0)]⟩⟩]⟩
  have accepted : DictionaryCatalog.parse text = .ok catalog := by decide +kernel
  obtain ⟨document, parsed, agree⟩ := printed_ids_decode_in_later_runs accepted
  have listed : DictionaryCatalog.listFor? document 7 = some ["alpha", "beta", "alpha"] := by
    have given : (Json.parse? text).bind (DictionaryCatalog.listFor? · 7) =
        some ["alpha", "beta", "alpha"] := by decide +kernel
    rw [parsed] at given
    exact given
  have seven : Numeral.ofInt32 7 = "7" := by decide +kernel
  have mixed := agree 7 ["alpha", "beta", "alpha"] listed ["beta", "-n", "alpha", "-n"] (by decide)
  have stored := agree 7 ["alpha", "beta", "alpha"] listed ["beta", "alpha"] (by decide)
  have mixedIds : ["beta", "-n", "alpha", "-n"].map (DictionaryCatalog.printedId
      ["alpha", "beta", "alpha"] ["beta", "-n", "alpha", "-n"]) = [1, -2, 0, -2] := by
    decide +kernel
  have storedIds : ["beta", "alpha"].map (DictionaryCatalog.printedId
      ["alpha", "beta", "alpha"] ["beta", "alpha"]) = [1, 0] := by decide +kernel
  have mixedWords : [1, -2, 0, -2].map Numeral.ofInt32 = ["1", "-2", "0", "-2"] := by
    decide +kernel
  have storedWords : [1, 0].map Numeral.ofInt32 = ["1", "0"] := by decide +kernel
  rw [if_pos (by decide), seven] at mixed stored
  simp only [mixedIds, mixedWords] at mixed
  simp only [storedIds, storedWords] at stored
  have printing (tree : FileTree) {one other : String} (same : one = other) :
      ((⟨0, one, none⟩ : ProgramOutcome), tree) = (⟨0, other, none⟩, tree) := by rw [same]
  exact ⟨firstWorks, laterWorks,
    (mixed.2 first firstWorks).1.trans (printing _ (by decide +kernel)),
    (mixed.2 later laterWorks).2,
    (stored.2 first firstWorks).1.trans (printing _ (by decide +kernel)),
    (stored.2 later laterWorks).2.trans (printing _ (by decide +kernel))⟩

end ProgramStart

end RowFunctions
