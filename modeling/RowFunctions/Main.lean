import RowFunctions.ProgramRuns

/-!
# The program

The program itself: files and variables come from the system, and the outcome of
a run is printed.
-/

namespace RowFunctions

/-- The text of an error of the system, with its number. -/
def systemErrorText (details : String) (code : UInt32) : String :=
  details ++ " (os error " ++ toString code ++ ")"

def fileFailureOfError : IO.Error → FileFailure
  | .noFileOrDirectory .. => .notFound
  | .inappropriateType _ _ details =>
      if details == "Is a directory" then .isDirectory else .notDirectory
  | .permissionDenied _ code details => .other (systemErrorText details code)
  | .invalidArgument _ code details => .other (systemErrorText details code)
  | .resourceExhausted _ code details => .other (systemErrorText details code)
  | .otherError code details => .other (systemErrorText details code)
  | error => .other (toString error)

/-- Carry out file access, with its failure as a value. -/
def attemptFileAccess {Answer : Type} (action : IO Answer) : IO (Except FileFailure Answer) := do
  try
    return .ok (← action)
  catch error =>
    return .error (fileFailureOfError error)

/-- Programs of the system have access to its files. -/
instance : FileAccess IO where
  workingDirectory := do
    match ← attemptFileAccess IO.currentDir with
    | .ok directory => return some directory.toString
    | .error _ => return none
  isPresent path := do
    match ← attemptFileAccess (IO.FS.realPath path) with
    | .ok _ => return true
    | .error _ => return false
  canonical path := do
    match ← attemptFileAccess (IO.FS.realPath path) with
    | .ok found => return some found.toString
    | .error _ => return none
  readText path := do
    match ← attemptFileAccess (IO.FS.readBinFile path) with
    | .error failure => return .error failure
    | .ok bytes =>
        match String.fromUTF8? bytes with
        | some text => return .ok text
        | none => return .error .notText
  writeText path text := attemptFileAccess (IO.FS.writeFile path text)

/-- The text of a file of the system, if it can be read. -/
def systemText? (path : String) : IO (Option String) := do
  return (← attemptFileAccess (IO.FS.readFile path)).toOption

/-- The number of the user, from the status of a process: the first number in the
line of the user numbers. -/
def userNumber? (status : String) : Option String :=
  (status.splitOn "\n").findSome? fun line =>
    match line.splitOn "\t" with
    | "Uid:" :: number :: _ => some number
    | _ => none

/-- The home directory of a user, from the lines of the user database. -/
def homeOfUser? (database number : String) : Option String :=
  (database.splitOn "\n").findSome? fun line =>
    match line.splitOn ":" with
    | [_, _, other, _, _, home, _] => if other = number then some home else none
    | _ => none

/-- The home directory of the account under which the program runs. -/
def systemAccountHome : IO (Option String) := do
  let status ← systemText? "/proc/self/status"
  let database ← systemText? "/etc/passwd"
  return database.bind fun database => (status.bind userNumber?).bind (homeOfUser? database)

/-- The variables of the system that the program looks at. -/
def systemEnvironment : IO Environment := do
  return {
    home := ← IO.getEnv "HOME"
    configurationHome := ← IO.getEnv "XDG_CONFIG_HOME"
    dictionaries := ← IO.getEnv "ROWFN_DICTIONARIES"
    plan := ← IO.getEnv "ROWFN_PLAN"
    strictArity := ← IO.getEnv "ROWFN_STRICT_ARITY"
    verbosity := ← IO.getEnv "ROWFN_VERBOSITY"
    accountHome := ← systemAccountHome }

/-- The build of this program, of which only the version is known. -/
def thisBuild : BuildInformation := ⟨"0.1.0", none, none, none⟩

/-- What the parsers of this program say about a text that they refuse, which is no
more than what they had expected. -/
def parserDetails : ParserDetails where
  toml _ := "not a settings document in TOML"
  yaml _ := "not a settings document in YAML"
  plan _ := "not a plan document"
  dictionaries _ := "not a dictionary document"

end RowFunctions

open RowFunctions in
/-- Run the program on the files and variables of the system. -/
def main (arguments : List String) : IO UInt32 := do
  let outcome ← runProgram thisBuild (← systemEnvironment) arguments
  IO.print outcome.printed
  if let some complaint := outcome.complaint then
    IO.eprintln (complaint.text parserDetails)
  return UInt32.ofNat outcome.code
