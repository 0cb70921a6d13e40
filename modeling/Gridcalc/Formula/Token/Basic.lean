/-! # Tokens of a formula

A formula is a sequence of tokens: numbers, text literals, words and symbols. Words
are keywords, cell references or names; a keyword or a symbol is known by its
spelling. -/

namespace Gridcalc.Formula

/-- The words with a fixed meaning. -/
inductive Keyword where
  | and
  | or
  | not
  | eqv
  | div
  | mod
deriving DecidableEq

namespace Keyword

/-- The lower-case spelling. -/
def spelling : Keyword → String
  | and => "and"
  | or => "or"
  | not => "not"
  | eqv => "eqv"
  | div => "div"
  | mod => "mod"

/-- Every keyword. -/
def all : List Keyword := [and, or, not, eqv, div, mod]

/-- The keyword with the given lower-case spelling. -/
def ofSpelling? (word : String) : Option Keyword := all.find? (·.spelling = word)

end Keyword

/-- Operators and punctuation. -/
inductive Symbol where
  | plus
  | minus
  | star
  | slash
  | caret
  | increment
  | decrement
  | equal
  | notEqual
  | less
  | greater
  | lessEqual
  | greaterEqual
  | openParen
  | closeParen
  | comma
deriving DecidableEq

namespace Symbol

/-- The characters of a symbol. -/
def spelling : Symbol → String
  | plus => "+"
  | minus => "-"
  | star => "*"
  | slash => "/"
  | caret => "^"
  | increment => "++"
  | decrement => "--"
  | equal => "="
  | notEqual => "<>"
  | less => "<"
  | greater => ">"
  | lessEqual => "<="
  | greaterEqual => ">="
  | openParen => "("
  | closeParen => ")"
  | comma => ","

/-- Every symbol, those of two characters first. -/
def all : List Symbol :=
  [increment, decrement, notEqual, lessEqual, greaterEqual, plus, minus, star, slash, caret,
    equal, less, greater, openParen, closeParen, comma]

/-- The longest symbol at the front of a text. -/
def atFront? (cs : List Char) : Option Symbol := all.find? (·.spelling.toList.isPrefixOf cs)

end Symbol

/-- One token. -/
inductive Token where
  /-- A run of digits, by its value. -/
  | number (value : Nat)
  /-- A text literal, by the text it stands for. -/
  | text (content : String)
  /-- A word of letters followed by digits, in capitals. -/
  | cell (address : String)
  /-- Any other word, as written. -/
  | name (word : String)
  | keyword (keyword : Keyword)
  | symbol (symbol : Symbol)
deriving DecidableEq

namespace Token

/-- A token as messages show it. A text literal is shown between quotes as it is,
with no quote doubled. -/
def display : Token → String
  | number value => toString value
  | text content => "\"" ++ content ++ "\""
  | cell address => address
  | name word => word
  | keyword k => k.spelling
  | symbol s => s.spelling

/-- What stands at some place of a formula, as messages show it: a token or the end. -/
def displayNext : Option Token → String
  | some token => token.display
  | none => "end of formula"

end Token

/-- A token and the byte offset of its first character. -/
structure Placed where
  token : Token
  offset : Nat
deriving DecidableEq

/-- What is left to read of a formula: the tokens ahead, and the offset of the end. The
end is always there, so a reader can look one token ahead wherever it stands. -/
structure Tokens where
  ahead : List Placed
  finish : Nat
deriving DecidableEq

namespace Tokens

/-- The token at the front, or nothing at the end. -/
def next? (tokens : Tokens) : Option Token := tokens.ahead.head?.map (·.token)

/-- The offset of the front: of the first token, or of the end. -/
def offset (tokens : Tokens) : Nat := (tokens.ahead.head?.map (·.offset)).getD tokens.finish

/-- Passes the token at the front; at the end nothing changes. -/
def advance (tokens : Tokens) : Tokens := { tokens with ahead := tokens.ahead.tail }

end Tokens
end Gridcalc.Formula
