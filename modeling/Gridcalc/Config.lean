import Gridcalc.Files
import Gridcalc.Formula.Expr.Eval
import Gridcalc.Text.Blank

/-! # Configuration

The settings come from a file that may be missing: one named on the command line, or
else the user's own. A file that cannot be used as a whole is not used at all; it gives a
warning, and the defaults apply.

The language of the file is left to a library (`Config.Reader`). What is fixed here is which
settings there are, which values they take, and what becomes of a file that is refused. -/

namespace Gridcalc

/-- The settings of a run. -/
structure Config where
  limits : Limits := {}
  /-- The log filter, when the file sets one. -/
  logLevel : Option String := none
deriving DecidableEq

/-- Why the settings of a file do not apply. -/
inductive ConfigWarning where
  /-- The file named on the command line does not exist. -/
  | missing (path : String)
  | tooLarge (path : String) (size limit : Nat)
  | unreadable (path : String)
  /-- The file is text but no configuration. -/
  | unparsable (path : String)
deriving DecidableEq

/-- The text shown to the user. What a reader reports in addition is not repeated. -/
def ConfigWarning.message : ConfigWarning → String
  | missing path => "Config file not found: " ++ path
  | tooLarge path size limit =>
    "Refusing to read " ++ path ++ ": file too large (" ++ toString size ++ " bytes, max " ++
      toString limit ++ ")"
  | unreadable path => "Failed to read " ++ path
  | unparsable path => "Failed to parse " ++ path

namespace Config

/-- The size up to which configuration files are read, in bytes. -/
def maxBytes : Nat := 1024 * 1024

/-- Where the user's own configuration is, below the home folder. -/
def userPath : String := ".config/cubecell/config.toml"

/-- A value that a setting can have. -/
inductive Scalar where
  | integer (value : Int)
  | text (content : String)
deriving DecidableEq

/-- **A reader of configuration files**: the assignments that a text makes, in order, if it makes
them and does nothing else. -/
abbrev Reader := String → Option (List (String × Scalar))

/-- Makes one setting; a key that is not known, or a value of the wrong kind or size, is
refused. A log level of blanks alone counts as none. -/
def assign (config : Config) : String × Scalar → Option Config
  | ("max_exponent", .integer value) =>
    if 0 ≤ value ∧ value ≤ 4294967295 then
      some { config with limits.maxExponent := .ofNat value.toNat }
    else none
  | ("log_level", .text level) =>
    let level := Text.trim level
    some { config with logLevel := if level.isEmpty then none else some level }
  | _ => none

/-- The settings that some assignments make. A key may be set only once. -/
def ofAssignments? (entries : List (String × Scalar)) : Option Config :=
  if (entries.map (·.1)).eraseDups.length < entries.length then none
  else entries.foldlM assign {}

/-- The settings of a file that exists, or why they do not apply. -/
def readWith (reader : Reader) (files : Files) (path : String) : Except ConfigWarning Config :=
  match files.readText maxBytes path with
  | .ok content =>
    match (reader content).bind ofAssignments? with
    | some config => .ok config
    | none => .error (.unparsable path)
  | .error (.tooLarge size limit) => .error (.tooLarge path size limit)
  | .error _ => .error (.unreadable path)

/-- **The settings of a run** and the warnings they come with: from the file named on the
command line, else from the user's own if it exists. -/
def loadWith (reader : Reader) (files : Files) (named : Option String) (user : String) :
    Config × List ConfigWarning :=
  let path := named.getD user
  if files.hasPath path then
    match readWith reader files path with
    | .ok config => (config, [])
    | .error warning => ({}, [warning])
  else ({}, if named.isSome then [.missing path] else [])

end Config
end Gridcalc
