import Gridcalc.Text.Blank
import Gridcalc.Text.Lines

/-! # Arguments of the command line

Options take the argument behind them as their value, whatever it looks like. An
argument that is no option's value and does not begin with a dash, or is a dash alone,
names the sheet file. Asking for help ends the reading, so what stands behind it is not
looked at. -/

namespace Gridcalc

/-- What a command line asks for. -/
structure Args where
  /-- The sheet to load. -/
  file : Option String := none
  /-- A formula to evaluate. -/
  command : Option String := none
  /-- Cells to set after loading, with what to enter, in order. -/
  edits : List (String × String) := []
  /-- Where to write the values. -/
  output : Option String := none
  /-- The configuration file. -/
  config : Option String := none
deriving DecidableEq

/-- The options that take a value. -/
inductive OptionName where
  | command
  | set
  | output
  | config
deriving DecidableEq

/-- Why a command line was refused. -/
inductive ArgsError where
  /-- An option at the end of the line has no value. -/
  | missingValue (option : OptionName)
  /-- What to set does not have an equals sign. -/
  | badEdit (value : String)
  | unknownOption (word : String)
  /-- There is a second sheet file. -/
  | unexpected (word : String)
deriving DecidableEq

/-- The text shown to the user. -/
def ArgsError.message : ArgsError → String
  | missingValue .command => "--command requires a formula"
  | missingValue .set => "--set requires CELL=INPUT"
  | missingValue .output => "--output requires a file path"
  | missingValue .config => "--config requires a file path"
  | badEdit value => "Invalid --set value '" ++ value ++ "': expected CELL=INPUT"
  | unknownOption word => "Unknown option: " ++ word
  | unexpected word => "Unexpected argument: " ++ word

namespace Args

/-- Whether an argument asks for help. -/
def isHelp (word : String) : Bool := word == "-h" || word == "--help"

/-- The option that an argument names. -/
def option? (word : String) : Option OptionName :=
  if word == "-c" || word == "--command" then some .command
  else if word == "-s" || word == "--set" then some .set
  else if word == "-o" || word == "--output" then some .output
  else if word == "--config" then some .config
  else none

/-- Whether an argument begins with a dash and is more than that. -/
def isDashed (word : String) : Bool :=
  match word.toList with
  | '-' :: _ :: _ => true
  | _ => false

/-- The cell and the input of an edit: what stands before the first equals sign, without
blanks around it, and all that stands behind. -/
def edit? (value : String) : Option (String × String) :=
  (Text.cutAt '=' value.toList).map fun (cell, input) =>
    (String.ofList (Text.trimChars cell), String.ofList input)

/-- Takes in an option with its value. -/
def setOption (args : Args) (option : OptionName) (value : String) : Except ArgsError Args :=
  match option with
  | .command => .ok { args with command := some value }
  | .output => .ok { args with output := some value }
  | .config => .ok { args with config := some value }
  | .set =>
    match edit? value with
    | some edit => .ok { args with edits := args.edits ++ [edit] }
    | none => .error (.badEdit value)

/-- Takes in the sheet file. -/
def setFile (args : Args) (word : String) : Except ArgsError Args :=
  if isDashed word then .error (.unknownOption word)
  else if args.file.isSome then .error (.unexpected word)
  else .ok { args with file := some word }

/-- Goes on reading arguments; nothing is asked for but help if help is. -/
def readFrom (args : Args) : List String → Except ArgsError (Option Args)
  | [] => .ok (some args)
  | [word] =>
    if isHelp word then .ok none
    else
      match option? word with
      | some option => .error (.missingValue option)
      | none => (args.setFile word).map some
  | word :: value :: rest =>
    if isHelp word then .ok none
    else
      match option? word with
      | some option => do
        let args ← args.setOption option value
        readFrom args rest
      | none => do
        let args ← args.setFile word
        readFrom args (value :: rest)

/-- What a list of arguments asks for, or nothing when it asks for help. -/
def parse (words : List String) : Except ArgsError (Option Args) := readFrom {} words

end Args
end Gridcalc
