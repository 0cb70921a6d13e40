import Gridcalc.Document.Basic

/-! # Loading and saving

A sheet file is read as a whole before the document changes, so a file that cannot be
read leaves the document as it was. Loading starts from an empty graph. -/

namespace Gridcalc.Document

/-- The size up to which sheet files are read, in bytes. -/
def maxSheetBytes : Nat := 16 * 1024 * 1024

/-- The sheet of a file. Its formulas have not been computed. -/
def readSheet (files : Files) (path : String) : Except DocumentError Sheet := do
  let content ← (files.readText maxSheetBytes path).mapError (.file path)
  (Sheet.ofText content).mapError .line

/-- **Replaces the cells by those of a file and calculates the sheet.** -/
def load (document : Document) (files : Files) (path : String) :
    Except DocumentError Summary × Document :=
  match readSheet files path with
  | .error error => (.error error, document)
  | .ok sheet =>
    match { document with sheet, graph := ∅ }.calculateAll with
    | (.error error, loaded) => (.error error, loaded)
    | (.ok summary, loaded) => (.ok summary, { loaded with path := some path, modified := false })

/-- Writes the inputs to the file that the document belongs to, and returns its path. -/
def save (document : Document) (files : Files) :
    Except DocumentError String × Document × Files :=
  match document.path with
  | none => (.error .noPath, document, files)
  | some path =>
    match files.write path document.sheet.toText with
    | .error fault => (.error (.file path fault), document, files)
    | .ok files => (.ok path, { document with modified := false }, files)

/-- Writes the report of the values to a file. -/
def exportReport (document : Document) (files : Files) (path : String) :
    Except DocumentError Files :=
  (files.write path document.sheet.report).mapError (.file path)

end Gridcalc.Document
