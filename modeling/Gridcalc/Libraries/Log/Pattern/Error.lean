import Gridcalc.Text.Lines

/-! # Errors in patterns

A pattern is a regular expression. What is wrong with one is told in three parts: the
pattern itself, carets under the place, and the fault. A pattern of several lines has its
lines numbered and ruled off. -/

namespace Gridcalc.Log.Pattern

/-- A place between two characters of a pattern. Lines and columns count from one. -/
structure Position where
  line : Nat := 1
  column : Nat := 1
deriving DecidableEq

/-- The place behind one character more. -/
def Position.after (position : Position) (c : Char) : Position :=
  if c = '\n' then ⟨position.line + 1, 1⟩ else ⟨position.line, position.column + 1⟩

/-- A part of a pattern, from one place to another. -/
structure Span where
  start : Position
  stop : Position
deriving DecidableEq

/-- Whether a span lies within a certain line. -/
def Span.isOn (span : Span) (line : Nat) : Bool :=
  span.start.line = line && span.stop.line = line

/-- What can be wrong with a pattern. -/
inductive Fault where
  /-- An assertion stands in a class of characters. -/
  | assertionInClass
  | rangeReversed
  /-- An end of a range is not a single character. -/
  | rangeBound
  | classUnclosed
  | countNotNumber
  | countTooLarge
  | countReversed
  | countUnclosed
  | nothingToRepeat
  | hexEmpty
  /-- The code in an escape is that of no character. -/
  | hexNoCharacter
  | hexNotDigit
  /-- The pattern ends within an escape. -/
  | escapeCutShort
  | escapeUnknown
  | propertyUnreadable
  | negationDangling
  | negationRepeated (first : Span)
  | flagRepeated (first : Span)
  | flagUnknown
  /-- The pattern ends within the flags of a group. -/
  | flagsCutShort
  | nameRepeated (first : Span)
  | nameEmpty
  | nameCharacter
  | nameUnclosed
  | groupUnclosed
  | groupUnopened
  | boundaryUnclosed
  | boundaryUnknown
  /-- The pattern ends behind the brace after a word boundary. -/
  | boundaryCutShort
  | backreference
  | lookaround
  /-- There are more parts around a part than a pattern may have. -/
  | nestedTooDeep (limit : Nat)
  | propertyUnknown
  | propertyValueUnknown
  /-- A character that is no byte stands where only bytes are matched. -/
  | bytesExceeded
  /-- Bytes are matched that are no character. -/
  | bytesUnreadable
deriving DecidableEq

namespace Fault

/-- The text of a fault. -/
def message : Fault → String
  | assertionInClass => "invalid escape sequence found in character class"
  | rangeReversed => "invalid character class range, the start must be <= the end"
  | rangeBound => "invalid range boundary, must be a literal"
  | classUnclosed => "unclosed character class"
  | countNotNumber => "repetition quantifier expects a valid decimal"
  | countTooLarge => "decimal literal invalid"
  | countReversed => "invalid repetition count range, the start must be <= the end"
  | countUnclosed => "unclosed counted repetition"
  | nothingToRepeat => "repetition operator missing expression"
  | hexEmpty => "hexadecimal literal empty"
  | hexNoCharacter => "hexadecimal literal is not a Unicode scalar value"
  | hexNotDigit => "invalid hexadecimal digit"
  | escapeCutShort => "incomplete escape sequence, reached end of pattern prematurely"
  | escapeUnknown => "unrecognized escape sequence"
  | propertyUnreadable => "invalid Unicode character class"
  | negationDangling => "dangling flag negation operator"
  | negationRepeated _ => "flag negation operator repeated"
  | flagRepeated _ => "duplicate flag"
  | flagUnknown => "unrecognized flag"
  | flagsCutShort => "expected flag but got end of regex"
  | nameRepeated _ => "duplicate capture group name"
  | nameEmpty => "empty capture group name"
  | nameCharacter => "invalid capture group character"
  | nameUnclosed => "unclosed capture group name"
  | groupUnclosed => "unclosed group"
  | groupUnopened => "unopened group"
  | boundaryUnclosed =>
    "special word boundary assertion is either unclosed or contains an invalid character"
  | boundaryUnknown =>
    "unrecognized special word boundary assertion, valid choices are: start, end, " ++
      "start-half or end-half"
  | boundaryCutShort =>
    "found either the beginning of a special word boundary or a bounded repetition on a \\b " ++
      "with an opening brace, but no closing brace"
  | backreference => "backreferences are not supported"
  | lookaround => "look-around, including look-ahead and look-behind, is not supported"
  | nestedTooDeep limit =>
    "exceed the maximum number of nested parentheses/brackets (" ++ toString limit ++ ")"
  | propertyUnknown => "Unicode property not found"
  | propertyValueUnknown => "Unicode property value not found"
  | bytesExceeded => "Unicode not allowed here"
  | bytesUnreadable => "pattern can match invalid UTF-8"

/-- The earlier place that a repetition of something repeats. -/
def first? : Fault → Option Span
  | negationRepeated first | flagRepeated first | nameRepeated first => some first
  | _ => none

end Fault

/-- What is wrong with a pattern, and where. -/
structure Error where
  span : Span
  fault : Fault
deriving DecidableEq

/-- Carets under spans of one line, from the left, where the next column to write is
known. A span of no width has a caret as well. -/
def carets (column : Nat) : List Span → List Char
  | [] => []
  | span :: rest =>
    let gap := span.start.column - column
    let width := Nat.max 1 (span.stop.column - span.start.column)
    List.replicate gap ' ' ++ List.replicate width '^' ++ carets (column + gap + width) rest

namespace Error

/-- The places to show, in the order of the pattern. -/
def spans (error : Error) : List Span := error.fault.first?.toList ++ [error.span]

/-- A line of a pattern behind its margin, and the carets under it if there are any. -/
def noted (error : Error) (margin : String) (line : List Char) (number : Nat) :
    List String :=
  let marked := error.spans.filter (·.isOn number)
  let blank := String.ofList (List.replicate margin.length ' ')
  (margin ++ String.ofList line) ::
    if marked.isEmpty then [] else [blank ++ String.ofList (carets 1 marked)]

/-- The margin with the number of a line, as wide as the last number. -/
def margin (last number : Nat) : String :=
  let digits := toString number
  let pad := (toString last).length - digits.length
  String.ofList (List.replicate pad ' ') ++ digits ++ ": "

/-- The remark on a span that carets cannot show. -/
def remark (span : Span) : String :=
  "on line " ++ toString span.start.line ++ " (column " ++ toString span.start.column ++
    ") through line " ++ toString span.stop.line ++ " (column " ++
    toString (span.stop.column - 1) ++ ")"

/-- The pattern with its error shown, line by line. -/
def shown (error : Error) (pattern : String) : List String :=
  let lines := Text.lines pattern.toList
  let last := lines.length + if pattern.toList.getLast? = some '\n' then 1 else 0
  if last ≤ 1 then lines.flatMap (error.noted "    " · 1)
  else
    let rule := String.ofList (List.replicate 79 '~')
    let numbered := (lines.zip (List.range' 1 lines.length)).flatMap fun (line, number) =>
      error.noted (margin last number) line number
    let long := error.spans.filter fun span => span.start.line ≠ span.stop.line
    rule :: numbered ++ rule :: long.map remark

/-- The text of an error in a pattern. -/
def message (error : Error) (pattern : String) : String :=
  "\n".intercalate
    ("regex parse error:" :: error.shown pattern ++ ["error: " ++ error.fault.message])

end Error
end Gridcalc.Log.Pattern
