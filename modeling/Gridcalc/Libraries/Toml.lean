import Gridcalc.Config
import Gridcalc.Libraries.Text.Digits

/-! # Assignments in TOML

A configuration is a TOML document, and the only documents it accepts are lists of
assignments of an integer or a string to a key. Tables, dotted keys and values of any
other kind are refused whatever they hold, so this reader knows none of them: it gives
the assignments of a document, in order, or nothing. -/

namespace Gridcalc.Toml
open Config (Scalar)

/-! ### Blanks, comments and line ends -/

/-- Blanks within a line. -/
def isBlank (c : Char) : Bool := c == ' ' || c == '\t'

/-- Characters that a comment or a string can hold: no control but the tab. -/
def isPlain (c : Char) : Bool := c == '\t' || (0x20 ≤ c.toNat && c.toNat != 0x7F)

/-- The text behind a line end, if it begins with one. -/
def afterNewline? : List Char → Option (List Char)
  | '\n' :: rest => some rest
  | '\r' :: '\n' :: rest => some rest
  | _ => none

/-- The text behind the end of a line, before which blanks and a comment may stand. The end
of the document ends a line. -/
def endLine? (cs : List Char) : Option (List Char) :=
  let cs := cs.dropWhile isBlank
  let cs := if cs.head? = some '#' then cs.dropWhile isPlain else cs
  if cs.isEmpty then some [] else afterNewline? cs

/-! ### Integers -/

/-- Digits without the underscores between them; each underscore has a digit on either
side. -/
def joinDigits? (cs : List Char) : Option (List Char) :=
  let groups := cs.splitOn '_'
  if groups.any List.isEmpty then none else some groups.flatten

/-- A decimal number, which has no leading zero. -/
def decimal? (cs : List Char) : Option Nat := do
  let digits ← joinDigits? cs
  if digits.head? = some '0' && digits.length != 1 then none else Text.positional? 10 digits

/-- An integer: decimal with an optional sign, or with a mark for its base and no sign. -/
def integer? : List Char → Option Int
  | '0' :: 'x' :: cs => ((joinDigits? cs).bind (Text.positional? 16)).map Int.ofNat
  | '0' :: 'o' :: cs => ((joinDigits? cs).bind (Text.positional? 8)).map Int.ofNat
  | '0' :: 'b' :: cs => ((joinDigits? cs).bind (Text.positional? 2)).map Int.ofNat
  | '+' :: cs => (decimal? cs).map Int.ofNat
  | '-' :: cs => (decimal? cs).map fun n => -Int.ofNat n
  | cs => (decimal? cs).map Int.ofNat

/-! ### Strings -/

/-- The character that an escape stands for, and how many characters of the text behind the
backslash it takes. -/
def escape? : List Char → Option (Char × Nat)
  | 'b' :: _ => some ('\x08', 1)
  | 't' :: _ => some ('\t', 1)
  | 'n' :: _ => some ('\n', 1)
  | 'f' :: _ => some ('\x0c', 1)
  | 'r' :: _ => some ('\r', 1)
  | '"' :: _ => some ('"', 1)
  | '\\' :: _ => some ('\\', 1)
  | 'u' :: rest => if rest.length < 4 then none else (Text.charOfCode? (rest.take 4)).map (·, 5)
  | 'U' :: rest => if rest.length < 8 then none else (Text.charOfCode? (rest.take 8)).map (·, 9)
  | _ => none

/-- The content of a string on one line and the text behind its closing mark. Escapes are
known between double quotes only. -/
def shortBody? (mark : Char) : List Char → Option (List Char × List Char)
  | [] => none
  | c :: rest =>
    if c = mark then some ([], rest)
    else if c = '\\' && mark = '"' then do
      let (escaped, taken) ← escape? rest
      let (content, behind) ← shortBody? mark (rest.drop taken)
      return (escaped :: content, behind)
    else if isPlain c then do
      let (content, behind) ← shortBody? mark rest
      return (c :: content, behind)
    else none
termination_by cs => cs.length
decreasing_by all_goals simp; try omega

/-- The text without the blanks and line ends in front of it. -/
def dropBreaks : List Char → List Char
  | [] => []
  | '\r' :: '\n' :: rest => dropBreaks rest
  | c :: rest => if isBlank c || c == '\n' then dropBreaks rest else c :: rest

/-- The text behind a backslash at the end of a line, without the blanks and line ends that
follow it. -/
def joinedLine? (cs : List Char) : Option (List Char) :=
  (afterNewline? (cs.dropWhile isBlank)).map dropBreaks

/-- The content of a string over several lines and the text behind its three closing marks.
One or two marks within the string are content, also right before the closing ones. -/
def longBody? (mark : Char) : Nat → List Char → Option (List Char × List Char)
  | 0, _ => none
  | _, [] => none
  | fuel + 1, c :: rest =>
    let more (content cs : List Char) : Option (List Char × List Char) :=
      (longBody? mark fuel cs).map fun found => (content ++ found.1, found.2)
    if c = mark then
      let marks := Nat.min 5 ((c :: rest).takeWhile (· == mark)).length
      if marks < 3 then more (List.replicate marks mark) ((c :: rest).drop marks)
      else some (List.replicate (marks - 3) mark, (c :: rest).drop marks)
    else if c = '\\' && mark = '"' then
      match joinedLine? rest with
      | some behind => more [] behind
      | none => (escape? rest).bind fun (escaped, taken) => more [escaped] (rest.drop taken)
    else if isPlain c then more [c] rest
    else (afterNewline? (c :: rest)).bind (more ['\n'])

/-- A string of any kind and the text behind it. A line end right behind three opening marks
does not count. -/
def string? : List Char → Option (String × List Char)
  | '"' :: '"' :: '"' :: rest => long '"' rest
  | '\'' :: '\'' :: '\'' :: rest => long '\'' rest
  | '"' :: rest => short '"' rest
  | '\'' :: rest => short '\'' rest
  | _ => none
where
  long (mark : Char) (rest : List Char) : Option (String × List Char) :=
    let body := (afterNewline? rest).getD rest
    (longBody? mark (body.length + 1) body).map fun found => (String.ofList found.1, found.2)
  short (mark : Char) (rest : List Char) : Option (String × List Char) :=
    (shortBody? mark rest).map fun found => (String.ofList found.1, found.2)

/-! ### Documents -/

/-- Characters of a key that needs no quotes. -/
def isBareKeyChar (c : Char) : Bool := c.isAlphanum || c == '_' || c == '-'

/-- A key and the text behind it. -/
def key? (cs : List Char) : Option (String × List Char) :=
  match cs with
  | '"' :: rest | '\'' :: rest => (shortBody? (cs.headD '"') rest).map fun found =>
      (String.ofList found.1, found.2)
  | _ =>
    let key := cs.takeWhile isBareKeyChar
    if key.isEmpty then none else some (String.ofList key, cs.dropWhile isBareKeyChar)

/-- A value and the text behind it. -/
def scalar? (cs : List Char) : Option (Scalar × List Char) :=
  if cs.head? = some '"' || cs.head? = some '\'' then
    (string? cs).map fun found => (.text found.1, found.2)
  else
    let isPart (c : Char) : Bool := isBareKeyChar c || c == '+'
    (integer? (cs.takeWhile isPart)).map fun value => (.integer value, cs.dropWhile isPart)

/-- An assignment up to the end of its line, and the text behind that. -/
def assignment? (cs : List Char) : Option ((String × Scalar) × List Char) := do
  let (key, cs) ← key? cs
  let cs := cs.dropWhile isBlank
  if cs.head? = some '=' then
    let (value, cs) ← scalar? ((cs.drop 1).dropWhile isBlank)
    let cs ← endLine? cs
    return ((key, value), cs)
  else none

/-- The assignments of a text with at most so many lines. -/
def assignmentsFrom? : Nat → List Char → Option (List (String × Scalar))
  | 0, _ => none
  | _, [] => some []
  | fuel + 1, cs =>
    match endLine? cs with
    | some rest => assignmentsFrom? fuel rest
    | none => do
      let (entry, rest) ← assignment? (cs.dropWhile isBlank)
      let entries ← assignmentsFrom? fuel rest
      return entry :: entries

/-- The assignments of a document. A byte order mark may stand in front of it. -/
def assignments? (document : String) : Option (List (String × Scalar)) :=
  let cs := document.toList
  let cs := if cs.head? = some '\uFEFF' then cs.tail else cs
  assignmentsFrom? (cs.length + 1) cs

end Gridcalc.Toml
