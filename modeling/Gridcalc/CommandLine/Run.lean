import Gridcalc.CommandLine.Perform
import Gridcalc.Libraries.Log.Filter
import Gridcalc.Libraries.Toml

/-! # Running a command line

The program as it is run: configurations are TOML documents, and a log filter is a list of
directives with a pattern behind them. What reads these two languages is kept apart in the
modules of `Gridcalc.Libraries`; what a run does with the answers is `CommandLine.runWith`. -/

namespace Gridcalc

/-- The libraries of the program. -/
def Libraries.standard : Libraries where
  settings? := Toml.assignments?
  filterWarnings filter := (Log.filterFaults filter).map (·.warning)

/-- The settings of a run and the warnings they come with, read as TOML. -/
def Config.load (files : Files) (named : Option String) (user : String) :
    Config × List ConfigWarning :=
  loadWith Libraries.standard.settings? files named user

/-- Runs a command line with the libraries of the program. -/
def CommandLine.run (files : Files) (words : List String) (userConfig : String) : Outcome :=
  runWith .standard files words userConfig

end Gridcalc
