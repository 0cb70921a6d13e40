import Gridcalc.Files.Path
import Std.Data.ExtTreeMap
import Std.Data.ExtTreeSet

/-! # Files

The files a run can see, as a value: their bytes by place, and the folders there are. A
folder exists when it was put there or holds a file that was. Writing opens no folder.

Every folder that a path leads through has to exist, also one that a later `..` leaves
again. -/

namespace Gridcalc

/-- Files and folders, by the spellings of their places. -/
structure Files where
  contents : Std.ExtTreeMap String ByteArray
  folders : Std.ExtTreeSet String

/-- Why a file could not be read or written. -/
inductive FileFault where
  /-- There is no such file, or no folder to write it to. -/
  | notFound
  /-- The path names a folder. -/
  | isFolder
  /-- The path leads through a file. -/
  | notFolder
  /-- The path or a name in it is longer than a path can be. -/
  | tooLong
  /-- The path holds a null character, which ends a path. -/
  | hasNull
  /-- The bytes are not text in UTF-8. -/
  | notText
  /-- The file is larger than the reader takes. -/
  | tooLarge (size limit : Nat)
deriving DecidableEq

namespace Files

/-- No files and no folders but the starting one. -/
def empty : Files := ⟨∅, ∅⟩

instance : EmptyCollection Files := ⟨empty⟩
instance : Inhabited Files := ⟨empty⟩

/-- The length up to which a name can be used, in bytes. -/
def maxNameBytes : Nat := 255

/-- The length up to which a path can be used, in bytes. -/
def maxPathBytes : Nat := 4095

/-- Whether a place is a folder. The folders that steps start from always exist. -/
def hasFolder (files : Files) (place : Place) : Bool :=
  place.isOuter || files.folders.contains place.spelling

/-- Puts the folders there that steps lead through. Returns the place behind them. -/
def openFolders (files : Files) (place : Place) : List String → Files × Place
  | [] => (files, place)
  | name :: rest =>
    let next := place.step name
    openFolders { files with folders := files.folders.insert next.spelling } next rest

/-- The files with a folder and the folders on the way to it. -/
def putFolder (files : Files) (text : String) : Files :=
  let path := Path.ofString text
  (files.openFolders (.origin path.rooted) path.steps).1

/-- The files with one more, in folders that are put there for it. -/
def put (files : Files) (text : String) (bytes : ByteArray) : Files :=
  let path := Path.ofString text
  let (files, folder) := files.openFolders (.origin path.rooted) path.folders
  match path.name with
  | some name =>
    { files with contents := files.contents.insert (folder.step name).spelling bytes }
  | none => files

/-- Takes steps through folders that exist. -/
def enter (files : Files) (place : Place) : List String → Except FileFault Place
  | [] => .ok place
  | name :: rest =>
    let next := place.step name
    if maxNameBytes < name.utf8ByteSize then .error .tooLong
    else if files.hasFolder next then files.enter next rest
    else if files.contents.contains next.spelling then .error .notFolder
    else .error .notFound

/-- The place of the file that a path names, whether it exists or not. -/
def locate (files : Files) (text : String) : Except FileFault Place :=
  if text.toList.contains '\x00' then .error .hasNull
  else if text.isEmpty then .error .notFound
  else if maxPathBytes < text.utf8ByteSize then .error .tooLong
  else do
    let path := Path.ofString text
    let folder ← files.enter (.origin path.rooted) path.folders
    match path.name with
    | none => .error .isFolder
    | some name =>
      if maxNameBytes < name.utf8ByteSize then .error .tooLong
      else if files.hasFolder (folder.step name) then .error .isFolder
      else .ok (folder.step name)

/-- The bytes of a file. -/
def bytes (files : Files) (path : String) : Except FileFault ByteArray := do
  let place ← files.locate path
  match files.contents[place.spelling]? with
  | some bytes => .ok bytes
  | none => .error .notFound

/-- The text of a file of at most so many bytes. -/
def readText (files : Files) (limit : Nat) (path : String) : Except FileFault String := do
  let bytes ← files.bytes path
  if limit < bytes.size then .error (.tooLarge bytes.size limit)
  else
    match String.fromUTF8? bytes with
    | some text => .ok text
    | none => .error .notText

/-- The files after a text was written to a path. -/
def write (files : Files) (path text : String) : Except FileFault Files := do
  let place ← files.locate path
  return { files with contents := files.contents.insert place.spelling text.toUTF8 }

/-- Whether something exists at a path. -/
def hasPath (files : Files) (path : String) : Bool :=
  match files.bytes path with
  | .ok _ => true
  | .error fault => fault = .isFolder

end Files
end Gridcalc
