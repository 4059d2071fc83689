import RowFunctions.Proofs.OverridingLayers
import RowFunctions.Proofs.ShadowedPaths
import RowFunctions.Proofs.TextsRead

/-!
# How a run starts

A run starts its command when the settings that the layers give are in order.  Of what
the layers give for a setting the first counts: the options come before the settings file
that is named, this one before the environment and the environment before the settings
file that a search finds.  The plan that a resolution names is put over the others only
after the check.  A run that does not start has read settings files at most and prints
nothing.
-/

namespace RowFunctions

section FirstGiven

variable {Value : Type}

/-- The first value that is given. -/
def firstGiven (values : List (Option Value)) : Option Value := values.findSome? id

end FirstGiven

/-! ### The settings file that a search finds -/

namespace SettingsFile

/-- The directories in which settings files are searched for, as far as they are known: the
working directory, the directory of the tool among the settings of the user, its directory
below home, and home.  Home is given by its variable or else by the account of the user,
never as an empty path; the settings of the user are where their variable says, if that is
an absolute path, or else below home. -/
def searched (environment : Environment) (working : String) : List String :=
  let home := firstGiven
    [environment.home.filter (· ≠ ""), environment.accountHome.filter (· ≠ "")]
  let configuration := firstGiven
    [environment.configurationHome.filter FilePath.isAbsolute,
      home.map (FilePath.join · ".config")]
  [some working, configuration.map (FilePath.join · "rowfn"),
    home.map fun home => FilePath.join (FilePath.join home ".config") "rowfn",
    home].filterMap id

end SettingsFile

/-! ### Settings of a run -/

namespace Settings

end Settings

namespace Surroundings

variable {arguments : List String} {invocation : Invocation} {surroundings : Surroundings}

section Runs

variable (understood : Invocation.parse arguments = .ok invocation)
include understood

end Runs

end Surroundings

end RowFunctions
