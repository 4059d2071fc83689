import RowFunctions.QuerySessions
import RowFunctions.Settings

/-!
# Failures of the tool

Whatever stops a command is reported in one line: the failure followed by the
failures behind it, separated by colons.
-/

namespace RowFunctions

/-- Why a command of the tool fails.  A plan that cannot be understood is kept as its
text, which decides what its parser says about it. -/
inductive ToolFailure where
  | settings (fault : SettingsFault)
  | unreadablePlan (path : String) (failure : FileFailure)
  | invalidPlan (path text : String)
  | unusableDictionaries (path : String) (error : DictionaryError)
  | resolution (error : ResolutionError)
  | query (error : QueryError)
deriving DecidableEq

namespace ToolFailure

def configurationText (text : String) : String := "Configuration error: " ++ text

def inputText (text : String) : String := "Input error: " ++ text

/-- The texts of a failure and of the failures behind it. -/
def chain (details : ParserDetails) : ToolFailure → List String
  | settings fault => [configurationText (fault.message details)]
  | unreadablePlan path failure => ["Failed to read plan " ++ path, failure.message]
  | invalidPlan path text => [inputText ("Invalid plan " ++ path ++ ": " ++ details.plan text)]
  | unusableDictionaries path error =>
      ["Failed to load dictionaries from " ++ path, error.message details] ++
        (error.cause? details).toList
  | resolution error => [error.message]
  | query error => error.message details :: (error.cause? details).toList

def message (details : ParserDetails) (failure : ToolFailure) : String :=
  String.intercalate ": " (failure.chain details)

end ToolFailure

end RowFunctions
