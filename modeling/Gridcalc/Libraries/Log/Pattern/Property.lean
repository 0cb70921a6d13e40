import Gridcalc.Libraries.Log.Pattern.Error
import Gridcalc.Libraries.Log.Pattern.Property.Binary
import Gridcalc.Libraries.Log.Pattern.Property.Category
import Gridcalc.Libraries.Log.Pattern.Property.Script
import Gridcalc.Libraries.Log.Pattern.Property.Value

/-! # Asking for properties

A pattern asks for a property by its name, or for a value of a property by both names with
a mark between them. Names are compared loosely: case, blanks, dashes and underscores do
not count, and neither does an `is` in front. -/

namespace Gridcalc.Log.Pattern

/-- A name as the tables spell it. -/
def looseName (name : List Char) : String :=
  let announced := (name.take 2).map Char.toLower = ['i', 's']
  let letters := ((if announced then name.drop 2 else name).filter fun c =>
    c.toNat < 128 && c != ' ' && c != '_' && c != '-').map Char.toLower
  if announced && letters = ['c'] then "isc" else String.ofList letters

/-- The parts of a text before and after the first unequal sign. -/
def cutAtUnequal? : List Char → Option (List Char × List Char)
  | [] => none
  | c :: rest =>
    if c = '!' && rest.head? = some '=' then some ([], rest.tail)
    else (cutAtUnequal? rest).map fun (before, after) => (c :: before, after)

/-- A property and its value, if a query names both. Of the marks that can stand between
them an unequal sign goes first and an equals sign last, wherever they stand. -/
def valueQuery? (query : List Char) : Option (List Char × List Char) :=
  ((cutAtUnequal? query).or (Text.cutAt ':' query)).or (Text.cutAt '=' query)

/-- The sets that can be asked for by one name, scripts apart. -/
def singleSets : List PropertyRow := binaryProperties ++ categories

/-- The values of a property, and the rows that hold the parts of their sets. -/
def valuesOf? (property : String) : Option (List PropertyRow × List PropertyRow) :=
  if ["gc", "generalcategory"].contains property then some (categories, singleSets)
  else if ["sc", "script"].contains property then some (scripts, scripts)
  else if ["scx", "scriptextensions"].contains property then
    some (scriptExtensions ++ scripts, scripts)
  else if property = "age" then some (ages, ages)
  else if ["gcb", "graphemeclusterbreak"].contains property then some (graphemeBreaks, singleSets)
  else if ["wb", "wordbreak"].contains property then some (wordBreaks, singleSets)
  else if ["sb", "sentencebreak"].contains property then some (sentenceBreaks, singleSets)
  else none

/-- The characters with a value of a property. -/
def valueSet (property value : String) : Except Fault (List (Nat × Nat)) :=
  match valuesOf? property with
  | some (rows, parts) =>
    match rows.find? (·.isCalled value) with
    | some row => .ok (row.set (setIn parts))
    | none => .error .propertyValueUnknown
  | none =>
    if otherProperties.contains property || binaryProperties.any (·.isCalled property) then
      .error .propertyValueUnknown
    else .error .propertyUnknown

/-- The names that are read as categories, although properties have them too. -/
def categoriesFirst : List String := ["cf", "lc", "sc"]

/-- The characters that a single name asks for: those with a property, of a category or of a
script. -/
def nameSet (name : String) : Except Fault (List (Nat × Nat)) :=
  if otherProperties.contains name && !categoriesFirst.contains name then
    .error .propertyUnknown
  else if emptyCategories.contains name || emptyScripts.contains name then
    .error .propertyValueUnknown
  else
    let rows := singleSets ++ scripts
    if rows.any (·.isCalled name) then .ok (setIn rows name) else .error .propertyUnknown

/-- **The characters that a query asks for**, as sorted ranges. -/
def propertySet (query : List Char) : Except Fault (List (Nat × Nat)) :=
  match valueQuery? query with
  | some (property, value) => valueSet (looseName property) (looseName value)
  | none => nameSet (looseName query)

/-- The decimal digits. -/
def digitSet : List (Nat × Nat) := setIn singleSets "nd"

/-- The blanks. -/
def blankSet : List (Nat × Nat) := setIn singleSets "space"

/-- The characters of words: the alphabetic ones, marks, digits, punctuation that connects,
and controls that join. -/
def wordSet : List (Nat × Nat) :=
  Text.unionRanges (["alpha", "m", "nd", "pc", "joinc"].flatMap (setIn singleSets))

end Gridcalc.Log.Pattern
