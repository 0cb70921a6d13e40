import Gridcalc.CommandLine.Run

/-! # The program

The outer layer: it looks up on disk the files that the arguments name, runs the command
line on them, and puts what came out into effect. -/

namespace Gridcalc.Program

/-- Whether a path leads to a folder on disk. -/
def isFolder (path : String) : IO Bool := do
  try
    let place ← IO.FS.realPath path
    place.isDir
  catch _ => return false

/-- Adds a path to the files as it is found on disk. What exists but cannot be read is
taken for a folder. -/
def observe (files : Files) (path : String) : IO Files := do
  if ← isFolder path then return files.putFolder path
  try
    let bytes ← IO.FS.readBinFile path
    return files.put path bytes
  catch
    | .noFileOrDirectory .. | .inappropriateType .. => return files
    | _ => return files.putFolder path

/-- The path of the user's own configuration. -/
def userConfig : IO String := do
  match ← IO.getEnv "XDG_CONFIG_HOME" with
  | some folder => return folder ++ "/cubecell/config.toml"
  | none => return (← IO.getEnv "HOME").getD "" ++ "/" ++ Config.userPath

/-- The files that a command line can read, and the folder that it can write to. -/
def observeFor (words : List String) (user : String) : IO Files := do
  match Args.parse words with
  | .ok (some args) =>
    let folders := (args.output.map fun path => [Path.parentText path, path]).getD []
    (args.file.toList ++ args.config.toList ++ [user] ++ folders).foldlM observe ∅
  | _ => return ∅

/-- Writes the files that a run changed. -/
def commit (before after : Files) : IO Unit :=
  after.contents.toList.forM fun (path, bytes) => do
    if before.contents[path]?.map (·.data) != some bytes.data then
      IO.FS.writeBinFile path bytes

end Gridcalc.Program

open Gridcalc in
/-- Runs the command line with the arguments behind the program's name. -/
def main (words : List String) : IO UInt32 := do
  let user ← Program.userConfig
  let files ← Program.observeFor words user
  let outcome := CommandLine.run files words user
  IO.print outcome.stdout
  outcome.stderr.forM IO.eprintln
  Program.commit files outcome.files
  return outcome.code.toUInt32
