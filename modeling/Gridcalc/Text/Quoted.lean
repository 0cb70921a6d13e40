import Gridcalc.Text.Printable

/-! # Quoted text in messages

A message that repeats a piece of the user's input shows it quoted, so that an
invisible character in it can be seen. A text goes between double quotes and a
single character between apostrophes; each escapes its own mark only. -/

namespace Gridcalc.Text

/-- The code point of a character in lower-case hexadecimal, as in `\u{1f600}`. -/
def codeEscape (c : Char) : List Char :=
  ['\\', 'u', '\x7b'] ++ Nat.toDigits 16 c.toNat ++ ['\x7d']

/-- A character as it appears between two marks: the mark and the backslash are
escaped by a backslash, four controls have a letter, and a character that would not
show as itself gives its code point. -/
def escapeChar (mark c : Char) : List Char :=
  if c = '\x00' then ['\\', '0']
  else if c = '\t' then ['\\', 't']
  else if c = '\r' then ['\\', 'r']
  else if c = '\n' then ['\\', 'n']
  else if c = '\\' || c = mark then ['\\', c]
  else if isPrintable c && !isExtending c then [c]
  else codeEscape c

/-- A text between double quotes. -/
def quoteText (text : String) : String :=
  String.ofList ('"' :: text.toList.flatMap (escapeChar '"') ++ ['"'])

/-- A character between apostrophes. -/
def quoteChar (c : Char) : String :=
  String.ofList ('\'' :: escapeChar '\'' c ++ ['\''])

end Gridcalc.Text
