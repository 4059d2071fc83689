import RowFunctions.ToolInvocations

/-!
# Runs of the program

A run reads its arguments, puts the layers of settings over each other, checks
them and carries out one command.  The plan named on the command line of a
resolution counts only after the check.  Wrong arguments end a run with code 2,
every other failure ends it with code 1.
-/

namespace RowFunctions

/-- What a run can complain about. -/
inductive Complaint where
  | misuse
  | failure (cause : ToolFailure)
deriving DecidableEq

/-- How a run ends: its code, what it has printed, and the complaint that it
makes beside that. -/
structure ProgramOutcome where
  code : Nat
  printed : String
  complaint : Option Complaint
deriving DecidableEq

namespace ProgramOutcome

def success (printed : String) : ProgramOutcome := ⟨0, printed, none⟩

def failure (printed : String) (cause : ToolFailure) : ProgramOutcome :=
  ⟨1, printed, some (.failure cause)⟩

def misuse : ProgramOutcome := ⟨2, "", some .misuse⟩

/-- The end of a run that carries out a command. -/
def ofCommand {Answer : Type} (outcome : CommandOutcome Answer) : ProgramOutcome :=
  match outcome.result with
  | .ok _ => success outcome.printed
  | .error cause => failure outcome.printed cause

end ProgramOutcome

/-- The line that says how a command is called. -/
def usageLine (path : List String) : String :=
  "Usage: " ++ String.intercalate " " path ++ " [OPTIONS] [ARGUMENTS]\n"

def Complaint.text (details : ParserDetails) : Complaint → String
  | misuse => "error: wrong arguments\n\n" ++ usageLine [toolName]
  | failure cause => "Error: " ++ cause.message details

def ArgumentRefusal.outcome (build : BuildInformation) : ArgumentRefusal → ProgramOutcome
  | help path => .success (usageLine path)
  | version path => .success (String.intercalate "-" path ++ " " ++ build.version ++ "\n")
  | misuse => .misuse

namespace Invocation

/-- Put the options of an invocation over settings. -/
def apply (invocation : Invocation) (settings : Settings) : Settings :=
  { settings with
    dictionaries := invocation.dictionaries.or settings.dictionaries
    verbosity :=
      if invocation.verbosity = 0 then settings.verbosity
      else min invocation.verbosity Settings.maximalVerbosity }

/-- The settings of a run: the file that a search finds, the environment, the file
that is named and the options, in this order. -/
def settings {m : Type → Type} [Monad m] [FileAccess m] (invocation : Invocation)
    (environment : Environment) : m (Except SettingsFault Settings) := do
  match ← Settings.load environment with
  | .error fault => return .error fault
  | .ok settings =>
      match invocation.settingsFile with
      | none => return .ok (invocation.apply settings)
      | some path =>
          match ← (Settings.mergeFile path).run settings with
          | (.error fault, _) => return .error fault
          | (.ok (), settings) => return .ok (invocation.apply settings)

/-- Carry out a command under settings that have been checked. -/
def carryOut {m : Type → Type} [Monad m] [FileAccess m] (settings : Settings) :
    ToolCommand → m ProgramOutcome
  | .resolve request plan => do
      return .ofCommand
        (← ToolCommand.resolveArgument { settings with plan := plan.or settings.plan } request)
  | .decode dictionary ids => do
      return .ofCommand (← ToolCommand.decodeIds settings dictionary ids)
  | .intern dictionary values => do
      return .ofCommand (← ToolCommand.internValues settings dictionary values)
  | .showSettings => return .ofCommand (ToolCommand.printSettings settings)
  | .createSettings path force => do
      return .ofCommand (← ToolCommand.createSettingsFile path force)

def run {m : Type → Type} [Monad m] [FileAccess m] (invocation : Invocation)
    (environment : Environment) : m ProgramOutcome := do
  match ← invocation.settings environment with
  | .error fault => return .failure "" (.settings fault)
  | .ok settings =>
      match settings.validate with
      | .error fault => return .failure "" (.settings fault)
      | .ok () => carryOut settings invocation.command

end Invocation

/-- Whether arguments ask for the details of the build, which only counts in the
first place. -/
def asksForBuild : List String → Bool
  | argument :: _ => argument == "--version" || argument == "-V"
  | [] => false

/-- Run a build of the program. -/
def runProgram {m : Type → Type} [Monad m] [FileAccess m] (build : BuildInformation)
    (environment : Environment) (arguments : List String) : m ProgramOutcome := do
  if asksForBuild arguments then
    return .success build.text
  else
    match Invocation.parse arguments with
    | .ok invocation => invocation.run environment
    | .error refusal => return refusal.outcome build

end RowFunctions
