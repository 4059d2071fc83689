import RowFunctions.FileFailures
import RowFunctions.IntegerNumerals
import RowFunctions.Lowercasing

/-!
# Settings

The settings of the tool come in layers: a settings file, the environment and
the command line.  Merging a layer that was read from a file replaces the
settings that differ from the initial ones there; a variable of the environment
always replaces its setting.
-/

namespace RowFunctions

/-- What can be wrong with settings and the documents they name.  Settings that
cannot be understood are kept as their text, which decides what the parser of the
format says about them. -/
inductive SettingsFault where
  | missingDictionaryDocument
  | missingPlanDocument
  | arityRequired
  | fileExists (path : String)
  | unreadableFile (failure : FileFailure)
  | invalidToml (text : String)
  | invalidYaml (text : String)
  | unsupportedFormat
  | unwritableFile (failure : FileFailure)
  | verbosityOutOfRange
  | emptyDictionaryPath
  | emptyPlanPath
deriving DecidableEq

/-- The text of a document that is not named anywhere. -/
def missingDocumentText (document : String) : String :=
  "No " ++ document ++
    " given; pass it on the command line, in the config file or the environment"

def SettingsFault.message (details : ParserDetails) : SettingsFault → String
  | missingDictionaryDocument => missingDocumentText "dictionary document"
  | missingPlanDocument => missingDocumentText "plan document"
  | arityRequired => "strict_arity is enabled; pass --arity to resolve"
  | fileExists path => "Config file already exists: " ++ path
  | unreadableFile failure => "Failed to read config file: " ++ failure.message
  | invalidToml text => "Invalid TOML config: " ++ details.toml text
  | invalidYaml text => "Invalid YAML config: " ++ details.yaml text
  | unsupportedFormat => "Unsupported config file format"
  | unwritableFile failure => "Failed to write config file: " ++ failure.message
  | verbosityOutOfRange => "Verbosity must be between 0 and 3"
  | emptyDictionaryPath => "Dictionary path must not be empty"
  | emptyPlanPath => "Plan path must not be empty"

/-- The settings of the tool: where its documents are, whether a resolution has
to name an arity, and how much it reports. -/
structure Settings where
  dictionaries : Option String
  plan : Option String
  strictArity : Bool
  verbosity : UInt8
deriving DecidableEq

/-- The variables that the tool looks at, and the home directory that the system
knows for the account of the user. -/
structure Environment where
  home : Option String
  configurationHome : Option String
  dictionaries : Option String
  plan : Option String
  strictArity : Option String
  verbosity : Option String
  accountHome : Option String

namespace Environment

/-- The environment in which a variable has the value that a function gives, for an
account with a home directory. -/
def ofVariables (valueOf : String → Option String) (accountHome : Option String) :
    Environment where
  home := valueOf "HOME"
  configurationHome := valueOf "XDG_CONFIG_HOME"
  dictionaries := valueOf "ROWFN_DICTIONARIES"
  plan := valueOf "ROWFN_PLAN"
  strictArity := valueOf "ROWFN_STRICT_ARITY"
  verbosity := valueOf "ROWFN_VERBOSITY"
  accountHome := accountHome

/-- Whether the text of a variable switches something on: everything does but
zero and the word "false" in any case. -/
def switchesOn (text : String) : Bool :=
  text != "0" && Lowercasing.ofString text != "false"

/-- The level that the text of a variable means; anything but a small number
means level zero. -/
def level (text : String) : UInt8 :=
  ((Numeral.toNatBelow? 256 text.toList).map UInt8.ofNat).getD 0

end Environment

namespace Settings

def initial : Settings := ⟨none, none, false, 0⟩

def maximalVerbosity : UInt8 := 3

/-- Put other settings over these, as far as they differ from the initial ones. -/
def merge (settings other : Settings) : Settings where
  dictionaries := other.dictionaries.or settings.dictionaries
  plan := other.plan.or settings.plan
  strictArity := other.strictArity || settings.strictArity
  verbosity := if other.verbosity = initial.verbosity then settings.verbosity else other.verbosity

def mergeEnvironment (settings : Settings) (environment : Environment) : Settings where
  dictionaries := environment.dictionaries.or settings.dictionaries
  plan := environment.plan.or settings.plan
  strictArity := (environment.strictArity.map Environment.switchesOn).getD settings.strictArity
  verbosity := (environment.verbosity.map Environment.level).getD settings.verbosity

/-- Check that the verbosity is in range and no path is empty. -/
def validate (settings : Settings) : Except SettingsFault Unit :=
  if maximalVerbosity < settings.verbosity then .error .verbosityOutOfRange
  else if settings.dictionaries = some "" then .error .emptyDictionaryPath
  else if settings.plan = some "" then .error .emptyPlanPath
  else .ok ()

end Settings

end RowFunctions
