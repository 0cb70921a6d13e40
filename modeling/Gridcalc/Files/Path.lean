import Gridcalc.Text.Lines

/-! # Paths

A path is a text of steps between slashes. Taken one after the other, the steps lead
through folders to a file, or to one more folder: an empty step and `.` stay in place, and
`..` goes up.

The *place* where steps arrive has one spelling, however it was reached. A file is kept
under the spelling of its place. -/

namespace Gridcalc

/-- Where steps lead to, from the root or from the starting folder. -/
structure Place where
  rooted : Bool
  /-- The names on the way, the last one first. Above the starting folder there are only
  `..` steps, at the end. -/
  trail : List String
deriving DecidableEq

namespace Place

/-- The root, or the starting folder. -/
def origin (rooted : Bool) : Place := ⟨rooted, []⟩

/-- The folder around a place. The root has none and counts as its own. -/
def up (place : Place) : Place :=
  match place.trail with
  | [] => if place.rooted then place else { place with trail := [".."] }
  | name :: outer =>
    if name = ".." then { place with trail := name :: place.trail }
    else { place with trail := outer }

/-- One step further, up or to a name. -/
def step (place : Place) (name : String) : Place :=
  if name = ".." then place.up else { place with trail := name :: place.trail }

/-- Whether the place is where steps start, or around that. -/
def isOuter (place : Place) : Bool := place.trail.all (· = "..")

/-- The one spelling of a place. The starting folder has an empty one. -/
def spelling (place : Place) : String :=
  (if place.rooted then "/" else "") ++ "/".intercalate place.trail.reverse

end Place

/-- A path, taken apart into its steps. -/
structure Path where
  rooted : Bool
  /-- The steps that have to lead through folders. -/
  folders : List String
  /-- The name behind them. A path that ends in a slash, a `.` or a `..` has none, and
  denotes a folder. -/
  name : Option String
deriving DecidableEq

namespace Path

/-- Whether a step stays in place. -/
def isIdle (step : String) : Bool := step = "" || step = "."

/-- The path that a text spells. -/
def ofString (text : String) : Path :=
  let rooted := text.toList.head? = some '/'
  let steps := Text.fields '/' text
  let last := steps.getLastD ""
  if isIdle last || last = ".." then ⟨rooted, steps.filter (!isIdle ·), none⟩
  else ⟨rooted, steps.dropLast.filter (!isIdle ·), some last⟩

/-- The steps to what the path denotes, the name among them. -/
def steps (path : Path) : List String := path.folders ++ path.name.toList

/-- The part of a path's text up to its last slash, which spells the folder of its name. -/
def parentText (text : String) : String :=
  String.ofList (text.toList.reverse.dropWhile (· ≠ '/')).reverse

end Path
end Gridcalc
