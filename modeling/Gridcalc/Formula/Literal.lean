/-! # Text literals

A text literal stands between double quotes, and a quote inside it is written twice.
So a quote closes the literal unless another quote follows it. -/

namespace Gridcalc.Formula

/-- The characters of a text with every quote written twice. -/
def doubleQuotes : List Char → List Char
  | [] => []
  | c :: rest => if c = '"' then '"' :: '"' :: doubleQuotes rest else c :: doubleQuotes rest

/-- Undoes `doubleQuotes`: two quotes in a row become one. -/
def halveQuotes : List Char → List Char
  | [] => []
  | '"' :: '"' :: rest => '"' :: halveQuotes rest
  | c :: rest => c :: halveQuotes rest

/-- The literal that stands for a text. -/
def quoteLiteral (text : String) : String :=
  String.ofList ('"' :: doubleQuotes text.toList ++ ['"'])

/-- The characters from behind an opening quote up to the closing one, with doubled
quotes still doubled, or nothing when no quote closes the literal. -/
def literalBody? : List Char → Option (List Char)
  | [] => none
  | '"' :: '"' :: rest => (literalBody? rest).map ('"' :: '"' :: ·)
  | c :: rest => if c = '"' then some [] else (literalBody? rest).map (c :: ·)

theorem halveQuotes_doubleQuotes (cs : List Char) : halveQuotes (doubleQuotes cs) = cs := by
  induction cs with
  | nil => rfl
  | cons c rest ih => by_cases h : c = '"' <;> simp [doubleQuotes, halveQuotes, h, ih]

end Gridcalc.Formula
