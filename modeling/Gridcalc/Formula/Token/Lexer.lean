import Gridcalc.Formula.Error
import Gridcalc.Formula.Literal

/-! # Reading tokens

A formula's text is cut into tokens from the left. ASCII blanks between tokens are
passed over, and every token takes as many characters as it can. `lexeme` decides
on one token; `Tokens.scan` goes through the text and keeps the byte offset. -/

namespace Gridcalc.Formula

/-- The blanks between tokens: space, tab, line feed, form feed and carriage return. -/
def isSpace (c : Char) : Bool :=
  c == ' ' || c == '\t' || c == '\n' || c == '\x0c' || c == '\r'

/-- Words begin with a letter or an underscore. -/
def isWordStart (c : Char) : Bool := c.isAlpha || c == '_'

/-- Words go on with letters, digits and underscores. -/
def isWordChar (c : Char) : Bool := c.isAlphanum || c == '_'

/-- Whether a word consists of letters followed by digits, some of each. -/
def isCellShaped (word : List Char) : Bool :=
  let digits := word.dropWhile Char.isAlpha
  !(word.takeWhile Char.isAlpha).isEmpty && !digits.isEmpty && digits.all Char.isDigit

/-- The token of a word: a keyword in any case, else a cell reference if it has that
shape, else a name. -/
def Token.ofWord (word : List Char) : Token :=
  match Keyword.ofSpelling? (String.ofList (word.map Char.toLower)) with
  | some k => .keyword k
  | none =>
    if isCellShaped word then .cell (String.ofList (word.map Char.toUpper))
    else .name (String.ofList word)

/-- The token that begins with the character `c` and goes on in `rest`, and the
characters of `rest` that belong to it. -/
def lexeme (c : Char) (rest : List Char) : Except SyntaxFault (Token × List Char) :=
  if c.isDigit then
    let more := rest.takeWhile Char.isDigit
    .ok (.number (Nat.ofDigitChars 10 (c :: more) 0), more)
  else if c = '"' then
    match literalBody? rest with
    | some body => .ok (.text (String.ofList (halveQuotes body)), body ++ ['"'])
    | none => .error .unterminatedText
  else if isWordStart c then
    let more := rest.takeWhile isWordChar
    .ok (.ofWord (c :: more), more)
  else
    match Symbol.atFront? (c :: rest) with
    | some s => .ok (.symbol s, s.spelling.toList.tail)
    | none => .error (.unexpectedCharacter c)

/-- The number of bytes that characters take in text. -/
def byteLength (cs : List Char) : Nat := (String.ofList cs).utf8ByteSize

/-- Reads the tokens of a text that begins at a byte offset, behind the tokens already
read, which are kept with the latest first. -/
def Tokens.scan (offset : Nat) (read : List Placed) : List Char → Except FormulaError Tokens
  | [] => .ok ⟨read.reverse, offset⟩
  | c :: rest =>
    if isSpace c then scan (offset + 1) read rest
    else
      match lexeme c rest with
      | .ok (token, more) =>
        scan (offset + byteLength (c :: more)) (⟨token, offset⟩ :: read)
          (rest.drop more.length)
      | .error fault => .error (.malformed offset fault)
termination_by cs => cs.length
decreasing_by
  · simp
  · simp only [List.length_drop, List.length_cons]
    omega

/-- **The tokens of a formula's text.** -/
def tokenize (text : String) : Except FormulaError Tokens := Tokens.scan 0 [] text.toList

end Gridcalc.Formula
