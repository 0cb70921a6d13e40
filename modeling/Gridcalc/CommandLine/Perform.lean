import Gridcalc.CommandLine.Args
import Gridcalc.Config
import Gridcalc.Document.Storage

/-! # Performing a command line

A run loads a sheet, edits it, evaluates a formula and writes the values, as far as its
arguments ask for each. It is a function of the arguments and the files: what it prints,
its exit code, and the files afterwards.

The language of the configuration and that of log filters belong to libraries, which a run
is given (`Libraries`). What is logged on the way is no part of an outcome; a filter that
does not read gives warnings, and they are. -/

namespace Gridcalc

/-- **What a run takes from libraries.** -/
structure Libraries where
  /-- Reads a configuration file. -/
  settings? : Config.Reader
  /-- The warnings about the parts of a log filter that do not read. -/
  filterWarnings : String → List String

/-- What a run leaves behind. -/
structure Outcome where
  code : UInt8
  /-- What it printed. -/
  stdout : String
  /-- The messages it gave, each on lines of its own. -/
  stderr : List String
  files : Files

namespace CommandLine

/-- The summary of the command line. -/
def usage : List String :=
  ["Usage: cubecell [OPTIONS] [FILE]",
   "",
   "Arguments:",
   "  [FILE]                    Sheet to load (one 'A1: <input>' per line)",
   "",
   "Options:",
   "  -c, --command <FORMULA>   Evaluate a formula and print the result",
   "  -s, --set <CELL=INPUT>    Set a cell after loading (can be repeated)",
   "  -o, --output <FILE>       Write cell values to a file",
   "  --config <FILE>           Read settings from this TOML file",
   "  -h, --help                Print help"]

/-- The document that a run begins with: empty, or loaded from the sheet file. -/
def openDocument (files : Files) (limits : Limits) (file : Option String) :
    Except String Document :=
  let document : Document := { limits }
  match file with
  | none => .ok document
  | some path =>
    match document.load files path with
    | (.ok _, loaded) => .ok loaded
    | (.error error, _) => .error ("Failed to load " ++ path ++ ": " ++ error.message)

/-- What is said about an edit that went through. -/
def warningOf (cell : String) : CellOutcome → List String
  | .faulted error => ["Warning: " ++ cell ++ ": " ++ error.message]
  | .rejected error => ["Warning: " ++ cell ++ ": " ++ error.message]
  | .literal | .computed _ => []

/-- Makes edits in turn, behind the warnings given before. An edit that fails ends the
run. -/
def applyEdits (document : Document) (warnings : List String) :
    List (String × String) → List String × Except String Document
  | [] => (warnings, .ok document)
  | (cell, input) :: rest =>
    match document.enterAt cell input with
    | (.ok outcome, edited) => applyEdits edited (warnings ++ warningOf cell outcome) rest
    | (.error error, _) =>
      (warnings, .error ("Failed to set " ++ cell ++ ": " ++ error.message))

/-- What evaluating a formula prints, what it says, and the exit code it asks for. -/
def answer (document : Document) (formula : String) : String × List String × UInt8 :=
  match document.preview formula with
  | .ok value => (value.display ++ "\n", [], 0)
  | .error error => (errorText ++ "\n", ["Error: " ++ error.message], 1)

/-- The end of a run: the formula is evaluated, and the values are written to a file. They
are printed only if neither was asked for. -/
def conclude (document : Document) (messages : List String) (files : Files) (args : Args) :
    Outcome :=
  let (printed, said, code) := (args.command.map (answer document)).getD ("", [], 0)
  let messages := messages ++ said
  match args.output with
  | some path =>
    match document.exportReport files path with
    | .ok files => ⟨code, printed, messages ++ ["Exported to " ++ path], files⟩
    | .error error =>
      ⟨1, printed, messages ++ ["Error: Failed to write " ++ path ++ ": " ++ error.message],
        files⟩
  | none =>
    ⟨code, if args.command.isSome then printed else document.sheet.report, messages, files⟩

/-- The log filter of a run whose configuration sets none. -/
def defaultFilter : String := "warn"

/-- **Does what the arguments ask for.** A sheet that does not load or an edit that fails
ends the run before anything is printed or written. The last argument is the path of the
user's own configuration. -/
def perform (libraries : Libraries) (files : Files) (args : Args) (userConfig : String) :
    Outcome :=
  let (config, warnings) :=
    Config.loadWith libraries.settings? files args.config userConfig
  let messages := libraries.filterWarnings (config.logLevel.getD defaultFilter) ++
    warnings.map fun warning => "Warning: " ++ warning.message
  match openDocument files config.limits args.file with
  | .error message => ⟨1, "", messages ++ ["Error: " ++ message], files⟩
  | .ok document =>
    match applyEdits document messages args.edits with
    | (messages, .error message) => ⟨1, "", messages ++ ["Error: " ++ message], files⟩
    | (messages, .ok document) => conclude document messages files args

/-- Runs a command line, given its arguments behind the program's name. -/
def runWith (libraries : Libraries) (files : Files) (words : List String)
    (userConfig : String) : Outcome :=
  match Args.parse words with
  | .ok (some args) => perform libraries files args userConfig
  | .ok none => ⟨0, "", usage, files⟩
  | .error error => ⟨1, "", ("Error: " ++ error.message) :: usage, files⟩

end CommandLine
end Gridcalc
