import RowFunctions.SettingsFiles
import RowFunctions.ToolFailures

/-!
# Commands of the tool

A command loads the documents that the settings name and prints its answer, one
fact a line.  What was printed before a failure stays printed.
-/

namespace RowFunctions

/-- What a command has printed, and its answer unless it failed. -/
structure CommandOutcome (Answer : Type) where
  printed : String
  result : Except ToolFailure Answer

namespace CommandOutcome

/-- The outcome of a command that fails before it prints anything. -/
def failed {Answer : Type} (failure : ToolFailure) : CommandOutcome Answer :=
  ⟨"", .error failure⟩

end CommandOutcome

/-- The question which dictionary stands behind an argument of a function. -/
structure ResolveRequest where
  function : String
  argument : Nat
  arity : Option Nat
  listsCandidates : Bool
deriving DecidableEq

/-- What the tool can be asked to do. -/
inductive ToolCommand where
  | resolve (request : ResolveRequest) (plan : Option String)
  | decode (dictionary : DictionaryId) (ids : List StringId)
  | intern (dictionary : DictionaryId) (values : List String)
  | showSettings
  | createSettings (path : String) (force : Bool)
deriving DecidableEq

namespace ResolveRequest

/-- The lines that list the call sites a request could mean, if it asks for them. -/
def candidateLines (request : ResolveRequest) (index : CallSiteIndex) :
    Except ResolutionError String :=
  if request.listsCandidates then
    (index.callSites request.function).map fun sites =>
      String.join (sites.map fun site => "candidate: " ++ site.display ++ "\n")
  else
    .ok ""

def answer (request : ResolveRequest) (plan : Plan) : CommandOutcome DictionaryId :=
  let index := CallSiteIndex.ofPlan plan
  match request.candidateLines index with
  | .error error => .failed (.resolution error)
  | .ok lines =>
      match (index.resolve request.function request.arity request.argument).outcome with
      | .error error => ⟨lines, .error (.query (.resolution error))⟩
      | .ok dictionary => ⟨lines ++ Numeral.ofInt32 dictionary ++ "\n", .ok dictionary⟩

end ResolveRequest

namespace DictionaryCatalog

/-- The strings with some identifiers, as a fresh query sees them. -/
def decode (catalog : DictionaryCatalog) (dictionary : DictionaryId) (ids : List StringId) :
    Except DictionaryError (List String) :=
  match catalog.get dictionary with
  | .error error => .error error
  | .ok stored => (DictionaryProxy.ofDictionary stored).getStrings ids

def intern (catalog : DictionaryCatalog) (dictionary : DictionaryId) (values : List String) :
    Except DictionaryError (List StringId) :=
  match catalog.get dictionary with
  | .error error => .error error
  | .ok stored => ((DictionaryProxy.ofDictionary stored).internAll values).1

def decodedLine (id : StringId) (value : String) : String :=
  Numeral.ofInt32 id ++ "\t" ++ value ++ "\n"

def internedLine (value : String) (id : StringId) : String :=
  value ++ "\t" ++ Numeral.ofInt32 id ++ "\t" ++
    (if StringId.isTransient id then "transient" else "persistent") ++ "\n"

def printDecoded (catalog : DictionaryCatalog) (dictionary : DictionaryId)
    (ids : List StringId) : CommandOutcome Unit :=
  match catalog.decode dictionary ids with
  | .error error => .failed (.query (.dictionary error))
  | .ok values => ⟨String.join (List.zipWith decodedLine ids values), .ok ()⟩

def printInterned (catalog : DictionaryCatalog) (dictionary : DictionaryId)
    (values : List String) : CommandOutcome (List StringId) :=
  match catalog.intern dictionary values with
  | .error error => .failed (.query (.dictionary error))
  | .ok ids => ⟨String.join (List.zipWith internedLine values ids), .ok ids⟩

end DictionaryCatalog

namespace ToolCommand

def loadCatalogFile {m : Type → Type} [Monad m] [FileAccess m] (path : String) :
    m (Except DictionaryError DictionaryCatalog) := do
  match ← FileAccess.readText path with
  | .ok text => return DictionaryCatalog.parse text
  | .error failure => return .error (.file failure)

def loadCatalog {m : Type → Type} [Monad m] [FileAccess m] (settings : Settings) :
    m (Except ToolFailure DictionaryCatalog) := do
  match settings.dictionaries with
  | none => return .error (.settings .missingDictionaryDocument)
  | some path =>
      match ← loadCatalogFile path with
      | .ok catalog => return .ok catalog
      | .error error => return .error (.unusableDictionaries path error)

def loadPlan {m : Type → Type} [Monad m] [FileAccess m] (settings : Settings) :
    m (Except ToolFailure Plan) := do
  match settings.plan with
  | none => return .error (.settings .missingPlanDocument)
  | some path =>
      match ← FileAccess.readText path with
      | .error failure => return .error (.unreadablePlan path failure)
      | .ok text =>
          match Plan.parse? text with
          | some plan => return .ok plan
          | none => return .error (.invalidPlan path text)

/-- Load the catalog that the settings name; there is an empty one when they name
none. -/
def loadCatalogIfNamed {m : Type → Type} [Monad m] [FileAccess m] (settings : Settings) :
    m (Except ToolFailure DictionaryCatalog) :=
  match settings.dictionaries with
  | none => pure (.ok .empty)
  | some _ => loadCatalog settings

/-- Print the dictionary behind an argument.  The catalog is loaded only to see
that it is usable. -/
def resolveArgument {m : Type → Type} [Monad m] [FileAccess m] (settings : Settings)
    (request : ResolveRequest) : m (CommandOutcome DictionaryId) := do
  if settings.strictArity ∧ request.arity = none then
    return .failed (.settings .arityRequired)
  else
    match ← loadPlan settings with
    | .error failure => return .failed failure
    | .ok plan =>
        match ← loadCatalogIfNamed settings with
        | .error failure => return .failed failure
        | .ok _ => return request.answer plan

def decodeIds {m : Type → Type} [Monad m] [FileAccess m] (settings : Settings)
    (dictionary : DictionaryId) (ids : List StringId) : m (CommandOutcome Unit) := do
  match ← loadCatalog settings with
  | .error failure => return .failed failure
  | .ok catalog => return catalog.printDecoded dictionary ids

def internValues {m : Type → Type} [Monad m] [FileAccess m] (settings : Settings)
    (dictionary : DictionaryId) (values : List String) :
    m (CommandOutcome (List StringId)) := do
  match ← loadCatalog settings with
  | .error failure => return .failed failure
  | .ok catalog => return catalog.printInterned dictionary values

def printSettings (settings : Settings) : CommandOutcome Unit :=
  ⟨YamlSettings.print settings, .ok ()⟩

/-- Write the initial settings to a file, which may exist only when that is
forced. -/
def createSettingsFile {m : Type → Type} [Monad m] [FileAccess m] (path : String)
    (force : Bool) : m (CommandOutcome Unit) := do
  if (← FileAccess.isPresent path) && !force then
    return .failed (.settings (.fileExists path))
  else
    match ← Settings.initial.save path with
    | .error fault => return .failed (.settings fault)
    | .ok () => return ⟨"Created config file: " ++ path ++ "\n", .ok ()⟩

end ToolCommand

end RowFunctions
