import Gridcalc.Proofs.Formula.Bytewise
import Gridcalc.Proofs.Formula.Inquiry
import Gridcalc.Proofs.Formula.Segmentation

/-! # The cells that a formula names

A cell has many spellings: the letters of an address may be written in either case, and the row with
zeros in front.  Without these differences an address is in its plain spelling (`CellRef.plain`),
which is how the cell that it names is printed (`CellRef.address_eq_plain`).

The words of a formula that were read as cells are written where their tokens begin
(`cellWords`).  From left to right they are the cell nodes of its tree, each in its plain spelling
(`cells_of_parse`).  The grammar gives one node to each such token, under whatever operators and
brackets it stands (`Derives.namesCells`), and the reader of tokens changes nothing about a word but
the case of its letters (`Segments.cell_word`).  So a formula refers to the address of a cell
exactly when it names the cell (`mem_references_iff_names`).
-/
namespace Gridcalc

namespace CellRef
open Address
variable {text other : String} {letters digits : List Char} {cell found : CellRef}

/-! ### Plain spellings -/

/-- **An address in capitals, without zeros in front of its row.** -/
def plain (text : String) : String :=
  String.ofList ((text.toList.takeWhile Char.isAlpha).map Char.toUpper ++
    (text.toList.dropWhile Char.isAlpha).dropWhile (· == '0'))

/-- A cell is printed in the plain spelling of any text that names it. -/
theorem address_eq_plain (h : parse text = .ok cell) : cell.address = plain text := by
  obtain ⟨letters, digits, hspelled⟩ := exists_spelled_of_parse h
  apply String.toList_injective
  rw [toList_address_of_spelled hspelled h, plain, String.toList_ofList,
    hspelled.shape.parted.takeWhile, hspelled.shape.parted.dropWhile]

/-- **Two texts have one plain spelling exactly when they name one cell.** -/
theorem plain_eq_iff (h : parse text = .ok cell) (hother : parse other = .ok found) :
    plain text = plain other ↔ parse text = parse other := by
  rw [← address_eq_plain h, ← address_eq_plain hother, h, hother, address_injective.eq_iff]
  exact (Except.ok.injEq _ _).to_iff.symm

/-! ### Capitals -/

/-- An address in capitals. -/
def capitals (text : String) : String := String.ofList (text.toList.map Char.toUpper)

theorem column_capitals (letters : List Char) :
    column (letters.map Char.toUpper) = column letters := by
  have hplace : letterPlace ∘ Char.toUpper = letterPlace :=
    funext fun c => by simp only [Function.comp_apply, letterPlace, Char.toUpper_toUpper_eq_toUpper]
  rw [column, column, Text.numeral, Text.numeral, ← List.map_reverse, List.map_map, hplace]

/-- Capitals do not change what is a letter and what is a digit. -/
theorem lettersThenDigits_capitals (h : LettersThenDigits text.toList letters digits) :
    LettersThenDigits (capitals text).toList (letters.map Char.toUpper) digits where
  split := by
    have hdigits : digits.map Char.toUpper = digits :=
      (List.map_congr_left fun c hc => Formula.toUpper_of_isDigit (h.digit c hc)).trans
        (List.map_id' digits)
    rw [capitals, String.toList_ofList, h.split, List.map_append, hdigits]
  letters_ne_nil := mt List.map_eq_nil_iff.mp h.letters_ne_nil
  alpha := by
    intro c hc
    obtain ⟨letter, hletter, rfl⟩ := List.mem_map.mp hc
    obtain ⟨digit, hdigit, hcapital, -, -⟩ := exists_digit_of_isAlpha (h.alpha letter hletter)
    rw [hcapital]
    exact isAlpha_capital hdigit
  digits_ne_nil := h.digits_ne_nil
  digit := h.digit

/-- **Letters and then digits name the same cell in capitals.** -/
theorem parse_capitals (h : LettersThenDigits text.toList letters digits) :
    parse (capitals text) = .ok cell ↔ parse text = .ok cell := by
  have hletters : letters.map Char.toUpper = [] ↔ letters = [] := List.map_eq_nil_iff
  rw [parse_of_parted h.parted, parse_of_parted (lettersThenDigits_capitals h).parted,
    column_capitals]
  simp only [hletters]
  -- The same question is asked at each step; only the text in an error is another.
  split
  · simp
  · split
    · simp
    · split
      · simp
      · split <;> simp

end CellRef

namespace Formula
open CellRef
variable {text formula a : String} {left : List Char} {position : Nat}
  {placed : List Placed} {rule : Rule} {phrase : Phrase} {e : Expr} {cell : CellRef}

/-! ### Cell tokens and cell nodes -/

/-- The address on a token, if the token is a cell. -/
def Token.address? : Token → Option String
  | .cell address => some address
  | _ => none

theorem Token.address?_eq_some {token : Token} : token.address? = some a ↔ token = .cell a := by
  cases token <;> simp [Token.address?]

/-- **The cells of a tree are those of its tokens,** one after another by their printed address. -/
def Phrase.NamesCells (phrase : Phrase) : Prop :=
  List.Forall₂ (fun a name => CellRef.canonical a = .ok name)
    (phrase.tokens.filterMap Token.address?) phrase.expr.cells

theorem namesCells_listed : ∀ {phrases : List Phrase},
    (∀ phrase ∈ phrases, phrase.NamesCells) →
      List.Forall₂ (fun a name => CellRef.canonical a = .ok name)
        ((Phrase.listed phrases).filterMap Token.address?)
        (Expr.cellsAll (phrases.map (·.expr)))
  | [], _ => .nil
  | phrase :: rest, h => by
    obtain ⟨hfirst, hrest⟩ := List.forall_mem_cons.mp h
    rw [List.map_cons, Expr.cellsAll_cons, Phrase.listed, List.flatMap_cons,
      List.filterMap_append]
    exact List.rel_append hfirst (namesCells_listed hrest)

theorem address?_of_mem_operators {tier : Tier} {token : Token} {op : BinaryOp}
    (h : (token, op) ∈ tier.operators) : token.address? = none := by
  have hall : ∀ pair ∈ tier.operators, pair.1.address? = none := by cases tier <;> decide
  exact hall _ h

theorem address?_of_mem_signs {token : Token} {op : UnaryOp} (h : (token, op) ∈ signs) :
    token.address? = none :=
  (by decide : ∀ pair ∈ signs, pair.1.address? = none) _ h

theorem address?_of_mem_steps {token : Token} {op : UnaryOp} (h : (token, op) ∈ steps) :
    token.address? = none :=
  (by decide : ∀ pair ∈ steps, pair.1.address? = none) _ h

/-- **What the grammar derives has the cells of its tokens,** at any depth. -/
theorem Derives.namesCells (h : Derives rule phrase) : phrase.NamesCells := by
  induction h with
  | operand _ ih | comparison _ ih | stepped _ ih | primary _ ih => exact ih
  | binary _ hop _ ihleft ihright =>
    rw [Phrase.NamesCells, List.filterMap_append,
      List.filterMap_cons_none (address?_of_mem_operators hop), Expr.cells_binary]
    exact List.rel_append ihleft ihright
  | not _ ih => exact ih
  | sign hop _ ih =>
    rw [Phrase.NamesCells, List.filterMap_cons_none (address?_of_mem_signs hop), Expr.cells_unary]
    exact ih
  | step _ hop ih =>
    rw [Phrase.NamesCells, List.filterMap_append,
      List.filterMap_cons_none (address?_of_mem_steps hop), List.filterMap_nil, List.append_nil,
      Expr.cells_unary]
    exact ih
  | number _ | text _ => exact .nil
  | cell hparse => exact .cons (canonical_eq_ok.mpr ⟨_, hparse, rfl⟩) .nil
  | group _ ih =>
    rw [Phrase.NamesCells, List.cons_append, List.filterMap_cons_none rfl, List.filterMap_append,
      List.filterMap_cons_none rfl, List.filterMap_nil, List.append_nil, Expr.cells_group]
    exact ih
  | call _ _ _ _ ihfirst ihmore =>
    rw [Phrase.NamesCells, List.cons_append, List.cons_append, List.filterMap_cons_none rfl,
      List.filterMap_cons_none rfl, List.filterMap_append, List.filterMap_append,
      List.filterMap_cons_none rfl, List.filterMap_nil, List.append_nil, Expr.cells_call,
      Expr.cellsAll_cons]
    exact List.rel_append ihfirst (namesCells_listed ihmore)

/-! ### The words of a text -/

/-- The word that begins at a byte of a text. -/
def wordAt (text : String) (offset : Nat) : String :=
  match Bytewise.cut? text.toList offset with
  | some (_, back) => String.ofList (back.takeWhile isWordChar)
  | none => ""

/-- **The words of a formula that were read as cells,** as they are written, from left to right. -/
def cellWords (formula : String) : List String :=
  match tokenize (body formula) with
  | .ok tokens => tokens.ahead.filterMap fun entry =>
      entry.token.address?.map fun _ => wordAt (body formula) entry.offset
  | .error _ => []

/-- The lexeme of a cell is letters and then digits, which the token has in capitals. -/
theorem IsLexeme.of_cell {lexeme : List Char} (h : IsLexeme lexeme (.cell a)) :
    (∃ letters digits, Address.LettersThenDigits lexeme letters digits) ∧
      (∀ c ∈ lexeme, isWordChar c = true) ∧ a = String.ofList (lexeme.map Char.toUpper) := by
  cases h with
  | word hstart hmore hstands =>
    cases hstands with
    | cell hshape =>
      refine ⟨⟨_, _, hshape⟩, List.forall_mem_cons.mpr ⟨?_, hmore⟩, rfl⟩
      exact isWordChar_of_isWordStart hstart

/-- **A cell token is a word of letters and digits, in capitals.** -/
theorem Segments.cell_word (h : Segments 0 text.toList placed position left) {entry : Placed}
    (hentry : entry ∈ placed) (ha : entry.token.address? = some a) :
    (∃ letters digits,
      Address.LettersThenDigits (wordAt text entry.offset).toList letters digits) ∧
      a = capitals (wordAt text entry.offset) := by
  obtain ⟨front, lexeme, back, hsplit, hoffset, hlexeme, hstop⟩ := h.written entry hentry
  rw [Token.address?_eq_some.mp ha] at hlexeme hstop
  obtain ⟨hshape, hword, rfl⟩ := hlexeme.of_cell
  have hback : Stops isWordChar back := fun next hnext =>
    Bool.eq_false_iff.mpr (hstop next hnext)
  have hat : (wordAt text entry.offset).toList = lexeme := by
    rw [wordAt, hsplit, hoffset, Nat.zero_add, Bytewise.cut?_append]
    exact (String.toList_ofList).trans (hback.takeWhile hword)
  rw [capitals, hat]
  exact ⟨hshape, rfl⟩

/-! ### Formulas -/

/-- **The cell tokens of a formula are its cell words in capitals,** and each of these words is
letters and then digits. -/
theorem capitals_cellWords {tokens : Tokens} (h : tokenize (body formula) = .ok tokens) :
    tokens.kinds.filterMap Token.address? = (cellWords formula).map capitals ∧
      ∀ word ∈ cellWords formula, ∃ letters digits,
        Address.LettersThenDigits word.toList letters digits := by
  have hsegments := segments_of_tokenize h
  have hwords : cellWords formula = tokens.ahead.filterMap fun entry =>
      entry.token.address?.map fun _ => wordAt (body formula) entry.offset := by
    rw [cellWords, h]
  constructor
  · rw [hwords, Tokens.kinds, List.filterMap_map, List.map_filterMap]
    refine List.filterMap_congr fun entry hentry => ?_
    rw [Function.comp_apply]
    cases haddress : entry.token.address? with
    | none => rfl
    | some a => rw [(hsegments.cell_word hentry haddress).2]; rfl
  · intro word hword
    rw [hwords] at hword
    obtain ⟨entry, hentry, hat⟩ := List.mem_filterMap.mp hword
    obtain ⟨a, haddress, rfl⟩ := Option.map_eq_some_iff.mp hat
    exact (hsegments.cell_word hentry haddress).1

/-- **The cell nodes of a formula are its cell words in plain spelling,** and each of these words
names a cell. -/
theorem cells_of_parse (h : parse formula = .ok e) :
    e.cells = (cellWords formula).map plain ∧
      ∀ word ∈ cellWords formula, ∃ cell, CellRef.parse word = .ok cell := by
  obtain ⟨tokens, htokens, hread⟩ := bind_eq_ok (parse_eq_ok.mp h)
  obtain ⟨nesting, -, -, hderives⟩ := parseTokens_eq_ok.mp hread
  obtain ⟨hcapitals, hshape⟩ := capitals_cellWords htokens
  have hnamed : List.Forall₂ (fun word name => (∃ cell, CellRef.parse word = .ok cell) ∧
      plain word = name) (cellWords formula) e.cells := by
    have hcells : List.Forall₂ (fun a name => canonical a = .ok name)
        ((cellWords formula).map capitals) e.cells := hcapitals ▸ hderives.namesCells
    have hboth := (List.forall₂_and_left _ _).mpr ⟨hshape, List.forall₂_map_left_iff.mp hcells⟩
    refine hboth.imp ?_
    rintro word name ⟨⟨letters, digits, hword⟩, hname⟩
    obtain ⟨cell, hparse, rfl⟩ := canonical_eq_ok.mp hname
    have hcell := (parse_capitals hword).mp hparse
    exact ⟨⟨cell, hcell⟩, (address_eq_plain hcell).symm⟩
  obtain ⟨hwords, hnames⟩ := (List.forall₂_and_left _ _).mp hnamed
  have hequal : List.Forall₂ (· = ·) ((cellWords formula).map plain) e.cells :=
    List.forall₂_map_left_iff.mpr hnames
  rw [List.forall₂_eq_eq_eq] at hequal
  exact ⟨hequal.symm, hwords⟩

/-! ### Cells that a formula names -/

/-- **Some word of the formula names the cell,** in whatever spelling. -/
def Names (formula : String) (cell : CellRef) : Prop :=
  ∃ word ∈ cellWords formula, CellRef.parse word = .ok cell

/-- The references of a formula are the addresses of the cells that it names. -/
theorem mem_references_iff (h : parse formula = .ok e) :
    a ∈ e.references ↔ ∃ cell, Names formula cell ∧ cell.address = a := by
  obtain ⟨hcells, hwords⟩ := cells_of_parse h
  rw [← Expr.mem_cells, hcells, List.mem_map]
  constructor
  · rintro ⟨word, hword, rfl⟩
    obtain ⟨cell, hparse⟩ := hwords word hword
    exact ⟨cell, ⟨word, hword, hparse⟩, CellRef.address_eq_plain hparse⟩
  · rintro ⟨cell, ⟨word, hword, hparse⟩, rfl⟩
    exact ⟨word, hword, (CellRef.address_eq_plain hparse).symm⟩

/-- **A formula refers to the address of a cell exactly when it names the cell.** -/
theorem mem_references_iff_names (h : parse formula = .ok e) :
    cell.address ∈ e.references ↔ Names formula cell := by
  rw [mem_references_iff h]
  constructor
  · rintro ⟨other, hnames, haddress⟩
    exact CellRef.address_injective haddress ▸ hnames
  · exact fun hnames => ⟨cell, hnames, rfl⟩

end Formula
end Gridcalc
