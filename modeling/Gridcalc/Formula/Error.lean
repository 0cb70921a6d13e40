import Gridcalc.Address.Basic
import Gridcalc.Formula.Expr.Basic
import Gridcalc.Formula.Token.Basic

/-! # Formula errors

A formula fails either because it does not read (`malformed`, at a byte offset of its
text) or because an operation in it has no result (`arithmetic`). -/

namespace Gridcalc.Formula

/-- Why a text is not a formula. -/
inductive SyntaxFault where
  /-- A text literal has no closing quote. -/
  | unterminatedText
  /-- No token begins with this character. -/
  | unexpectedCharacter (c : Char)
  /-- There is no token at all. -/
  | emptyFormula
  /-- Something follows a complete expression. -/
  | trailing (found : Token)
  /-- A certain symbol has to stand here. -/
  | expected (wanted : Symbol) (found : Option Token)
  /-- Too many brackets are open, or the tree is too high. -/
  | nestedTooDeeply
  /-- A reference has a column or a row that no cell has. -/
  | badAddress (error : AddressError)
  /-- An operand is missing at the end. -/
  | unexpectedEnd
  /-- An operand is missing before this token. -/
  | unexpected (found : Token)
  /-- A name is not followed by an opening parenthesis. -/
  | unknownName (name : String)
  /-- No function has this name. -/
  | unknownFunction (name : String)
  /-- The function does not take so many arguments. -/
  | wrongArity (function : Builtin) (count : Nat)
deriving DecidableEq

/-- The text of a syntax fault. -/
def SyntaxFault.message : SyntaxFault → String
  | unterminatedText => "Unterminated string literal"
  | unexpectedCharacter c => "Unexpected character " ++ Text.quoteChar c
  | emptyFormula => "Empty formula"
  | trailing found => "Unexpected " ++ found.display ++ " after expression"
  | expected wanted found =>
    "Expected " ++ wanted.spelling ++ ", found " ++ Token.displayNext found
  | nestedTooDeeply => "Formula nested too deeply"
  | badAddress error => error.message
  | unexpectedEnd => "Unexpected end of formula"
  | unexpected found => "Unexpected " ++ found.display
  | unknownName name => "Unknown identifier " ++ name
  | unknownFunction name => "Unknown function " ++ name
  | wrongArity function count =>
    "Wrong number of arguments for " ++ function.name ++ ": got " ++ toString count

/-- Why an operation has no result. -/
inductive ArithmeticFault where
  | divideByZero
  | negativeExponent (exponent : Int)
  | exponentTooLarge (exponent : Int) (max : UInt32)
deriving DecidableEq

/-- The text of an arithmetic fault. -/
def ArithmeticFault.message : ArithmeticFault → String
  | divideByZero => "Division by zero"
  | negativeExponent exponent =>
    "Negative exponents are not supported: " ++ toString exponent
  | exponentTooLarge exponent max =>
    "Exponent " ++ toString exponent ++ " exceeds the maximum of " ++ toString max.toNat

end Gridcalc.Formula

namespace Gridcalc

/-- Why a formula has no value. -/
inductive FormulaError where
  /-- It does not read; the position is a byte offset. -/
  | malformed (position : Nat) (fault : Formula.SyntaxFault)
  | arithmetic (fault : Formula.ArithmeticFault)
deriving DecidableEq

namespace FormulaError

/-- The text shown to the user. -/
def message : FormulaError → String
  | malformed position fault =>
    "Syntax error at offset " ++ toString position ++ ": " ++ fault.message
  | arithmetic fault => fault.message

/-- Whether an operation failed, rather than the reading of the formula. -/
def isArithmetic : FormulaError → Bool
  | malformed .. => false
  | arithmetic _ => true

/-- The same error in a text that has so many bytes more in front. -/
def shift (bytes : Nat) : FormulaError → FormulaError
  | malformed position fault => malformed (position + bytes) fault
  | arithmetic fault => arithmetic fault

end FormulaError
end Gridcalc
