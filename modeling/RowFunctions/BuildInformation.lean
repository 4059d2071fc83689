/-!
# Build information

The text in which the tool introduces itself: its version, followed by the
details of the build that are known.
-/

namespace RowFunctions

def toolName : String := "rowfn"

/-- What is known about the build of a tool. -/
structure BuildInformation where
  version : String
  gitHash : Option String
  buildDate : Option String
  compiler : Option String
deriving DecidableEq

namespace BuildInformation

/-- A line that reports a detail, if it is known. -/
def detail (label : String) : Option String → String
  | some value => label ++ ": " ++ value ++ "\n"
  | none => ""

def text (build : BuildInformation) : String :=
  toolName ++ " " ++ build.version ++ "\n" ++ detail "Git hash" build.gitHash ++
    detail "Built" build.buildDate ++ detail "Rust" build.compiler

end BuildInformation

end RowFunctions
