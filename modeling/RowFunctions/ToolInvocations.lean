import RowFunctions.BuildInformation
import RowFunctions.CommandArguments

/-!
# Invocations of the tool

The command tree of the tool and what its arguments mean.  The settings file,
the dictionary document and the verbosity can be given at every level; of the
levels that give one the deepest decides.
-/

namespace RowFunctions

/-- What the command line asks for. -/
structure Invocation where
  settingsFile : Option String
  dictionaries : Option String
  verbosity : UInt8
  command : ToolCommand
deriving DecidableEq

/-- The arguments found at every level, from the root on, by name. -/
abbrev FoundArguments := List (String × List (String × ArgumentValue))

namespace ToolInvocation

def valued (name : String) (letter : Char) (type : ArgumentType) : OptionDescription :=
  ⟨name, some letter, .takesValue type⟩

def sharedOptions : List OptionDescription :=
  [valued "config" 'c' .path, valued "dictionaries" 'd' .path,
    ⟨"verbose", some 'v', .counts⟩, ⟨"help", some 'h', .asksHelp⟩,
    ⟨"version", some 'V', .asksVersion⟩]

def single (name : String) (type : ArgumentType) (allowsNegative : Bool) :
    PositionalDescription :=
  ⟨name, type, allowsNegative, true, false⟩

/-- A positional argument that stands for one or more words. -/
def several (name : String) (type : ArgumentType) (allowsNegative : Bool) :
    PositionalDescription :=
  ⟨name, type, allowsNegative, true, true⟩

def resolveDescription : CommandDescription where
  name := "resolve"
  options :=
    [valued "plan" 'p' .path, valued "arity" 'a' .natural, ⟨"candidates", none, .switches⟩] ++
      sharedOptions
  positionals := [single "function" .text false, single "arg_index" .natural false]
  commands := []

def decodeDescription : CommandDescription where
  name := "decode"
  options := sharedOptions
  positionals := [single "dict_id" .identifier true, several "ids" .identifier true]
  commands := []

def internDescription : CommandDescription where
  name := "intern"
  options := sharedOptions
  positionals := [single "dict_id" .identifier true, several "values" .text false]
  commands := []

def showDescription : CommandDescription where
  name := "show"
  options := sharedOptions
  positionals := []
  commands := []

def initDescription : CommandDescription where
  name := "init"
  options := ⟨"force", some 'f', .switches⟩ :: sharedOptions
  positionals := [⟨"path", .path, false, false, false⟩]
  commands := []

def configDescription : CommandDescription where
  name := "config"
  options := sharedOptions
  positionals := []
  commands := [showDescription, initDescription]

def description : CommandDescription where
  name := toolName
  options := sharedOptions
  positionals := []
  commands := [resolveDescription, decodeDescription, internDescription, configDescription]

/-- The path of a settings file that is written without a path given. -/
def defaultSettingsPath : String := "rowfn.toml"

def text? (found : List (String × ArgumentValue)) (name : String) : Option String :=
  match found.lookup name with
  | some (.text value) => some value
  | _ => none

def natural? (found : List (String × ArgumentValue)) (name : String) : Option Nat :=
  match found.lookup name with
  | some (.natural value) => some value
  | _ => none

def identifier? (found : List (String × ArgumentValue)) (name : String) : Option Int32 :=
  match found.lookup name with
  | some (.identifier value) => some value
  | _ => none

def has (found : List (String × ArgumentValue)) (name : String) : Bool :=
  (found.lookup name).isSome

def texts (found : List (String × ArgumentValue)) (name : String) : List String :=
  found.filterMap fun entry =>
    match entry with
    | (other, .text value) => if other = name then some value else none
    | _ => none

def identifiers (found : List (String × ArgumentValue)) (name : String) : List Int32 :=
  found.filterMap fun entry =>
    match entry with
    | (other, .identifier value) => if other = name then some value else none
    | _ => none

/-- The text of a shared option at the deepest level that has it. -/
def sharedText? (levels : FoundArguments) (name : String) : Option String :=
  levels.reverse.findSome? fun level => text? level.2 name

/-- How often a counted option occurs at one level, up to the greatest byte. -/
def count (found : List (String × ArgumentValue)) (name : String) : UInt8 :=
  UInt8.ofNat (min 255 (found.filter fun entry => entry.1 == name).length)

/-- The count of a shared option at the deepest level that has it. -/
def sharedCount (levels : FoundArguments) (name : String) : UInt8 :=
  match levels.reverse.find? fun level => has level.2 name with
  | some level => count level.2 name
  | none => 0

/-- The command that the names below the root and the arguments of the lowest
level mean. -/
def command? : List String → List (String × ArgumentValue) → Option ToolCommand
  | ["resolve"], found => do
      let request : ResolveRequest :=
        ⟨← text? found "function", ← natural? found "arg_index", natural? found "arity",
          has found "candidates"⟩
      return .resolve request (text? found "plan")
  | ["decode"], found => do
      return .decode (← identifier? found "dict_id") (identifiers found "ids")
  | ["intern"], found => do
      return .intern (← identifier? found "dict_id") (texts found "values")
  | ["config", "show"], _ => some .showSettings
  | ["config", "init"], found =>
      some (.createSettings ((text? found "path").getD defaultSettingsPath) (has found "force"))
  | _, _ => none

def ofFound? (levels : FoundArguments) : Option Invocation := do
  let lowest ← levels.getLast?
  let command ← command? (levels.tail.map Prod.fst) lowest.2
  return ⟨sharedText? levels "config", sharedText? levels "dictionaries",
    sharedCount levels "verbose", command⟩

end ToolInvocation

def Invocation.parse (arguments : List String) : Except ArgumentRefusal Invocation :=
  match ToolInvocation.description.readFrom [ToolInvocation.description.name] .start arguments with
  | .error refusal => .error refusal
  | .ok levels =>
      match ToolInvocation.ofFound? levels with
      | some invocation => .ok invocation
      | none => .error .misuse

end RowFunctions
