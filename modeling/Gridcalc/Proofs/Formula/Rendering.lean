import Gridcalc.Formula.Expr.Printer
import Gridcalc.Proofs.Formula.Lexing

/-! # What a printed expression is read as

Only binary operations are printed in parentheses.  Signs and negations are printed in front of
their operand, steps behind it, and parentheses that were written not at all.  So a printed
expression consists of *marks* in front (`Expr.marks`), a number, a text, a cell, a call or a binary
operation in parentheses, and steps behind.

The marks need not be read as what they were.  Two equal signs in a row are one token (`fuse`); all
marks are applied behind the steps, wherever these were written; and a negation that is printed in
front of a comparison or a calculation negates all of it.  `Expr.reading` is what is read: it has
the tokens of the printed form (`Expr.tokenize_render`), and the expression that the grammar makes
of them if it can make anything of them.
-/
namespace Gridcalc.Formula

/-! ### Operators as they are printed -/

/-- The token of an operator in front of its operand or behind it. -/
def UnaryOp.token : UnaryOp → Token
  | negate => .symbol .minus
  | identity => .symbol .plus
  | increment => .symbol .increment
  | decrement => .symbol .decrement
  | not => .keyword .not

namespace BinaryOp

/-- The token under which an operator is printed. -/
def token : BinaryOp → Token
  | add => .symbol .plus
  | sub => .symbol .minus
  | mul => .symbol .star
  | div => .symbol .slash
  | mod => .keyword .mod
  | pow => .symbol .caret
  | eq => .symbol .equal
  | neq => .symbol .notEqual
  | lt => .symbol .less
  | gt => .symbol .greater
  | le => .symbol .lessEqual
  | ge => .symbol .greaterEqual
  | and => .keyword .and
  | or => .keyword .or
  | eqv => .keyword .eqv

/-- The tier of an operator. -/
def tier : BinaryOp → Tier
  | and | or | eqv => .logical
  | eq | neq | lt | gt | le | ge => .comparison
  | add | sub => .additive
  | mul | div | mod => .multiplicative
  | pow => .power

theorem token_mem_operators (op : BinaryOp) : (op.token, op) ∈ op.tier.operators := by
  cases op <;> decide

end BinaryOp

/-! ### Marks -/

/-- What is printed in front of an operand. -/
inductive Mark where
  | minus
  | plus
  | not
deriving DecidableEq

namespace Mark

/-- The characters of a mark. -/
def chars : Mark → List Char
  | minus => ['-']
  | plus => ['+']
  | not => ['n', 'o', 't', ' ']

/-- The operator that a mark stands for by itself. -/
def op : Mark → UnaryOp
  | minus => .negate
  | plus => .identity
  | not => .not

end Mark

/-- An operator is printed as a mark or as a step. -/
theorem UnaryOp.mark_or_step (op : UnaryOp) :
    (∃ mark : Mark, op = mark.op) ∨ (op.token, op) ∈ steps := by
  cases op with
  | negate => exact Or.inl ⟨.minus, rfl⟩
  | identity => exact Or.inl ⟨.plus, rfl⟩
  | not => exact Or.inl ⟨.not, rfl⟩
  | increment | decrement => exact Or.inr (by decide)

/-- **The operators that marks are read as.**  Two equal signs in a row are one step. -/
def fuse : List Mark → List UnaryOp
  | [] => []
  | .minus :: .minus :: rest => .decrement :: fuse rest
  | .plus :: .plus :: rest => .increment :: fuse rest
  | mark :: rest => mark.op :: fuse rest

namespace Expr

/-- The marks in front of a printed expression, the outermost first. -/
def marks : Expr → List Mark
  | unary .negate operand => .minus :: operand.marks
  | unary .identity operand => .plus :: operand.marks
  | unary .not operand => .not :: operand.marks
  | unary .increment operand | unary .decrement operand | group operand => operand.marks
  | number _ | text _ | cell _ | binary _ _ _ | call _ _ => []

/-- The operators that the marks in front of a printed expression are read as. -/
def front (e : Expr) : List UnaryOp := fuse e.marks

end Expr

/-! ### Phrases put together -/

namespace Phrase

/-- A phrase with operators in front. -/
def under (phrase : Phrase) : List UnaryOp → Phrase
  | [] => phrase
  | op :: ops => ⟨op.token :: (phrase.under ops).tokens, .unary op (phrase.under ops).expr,
      (phrase.under ops).nesting + 1⟩

/-- A phrase with a step behind it. -/
def stepped (phrase : Phrase) (op : UnaryOp) : Phrase :=
  ⟨phrase.tokens ++ [op.token], .unary op phrase.expr, phrase.nesting⟩

/-- Two phrases with an operator between them. -/
def joined (op : BinaryOp) (left right : Phrase) : Phrase :=
  ⟨left.tokens ++ op.token :: right.tokens, .binary op left.expr right.expr,
    max left.nesting right.nesting⟩

/-- Two phrases with an operator between them, and operators in front.  Negations in front apply to
the whole, unless the operator is a logical one. -/
def joinedUnder (front : List UnaryOp) (op : BinaryOp) (left right : Phrase) : Phrase :=
  if op.tier = .logical then joined op (left.under front) right
  else (joined op (left.under (front.dropWhile (· == .not))) right).under
    (front.takeWhile (· == .not))

/-- A phrase in parentheses. -/
def grouped (phrase : Phrase) : Phrase :=
  ⟨.symbol .openParen :: phrase.tokens ++ [.symbol .closeParen], .group phrase.expr,
    phrase.nesting + 1⟩

/-- A call with phrases as its arguments. -/
def called (function : Builtin) : List Phrase → Phrase
  | [] => ⟨[.name function.name, .symbol .openParen, .symbol .closeParen], .call function [], 1⟩
  | first :: more => ⟨.name function.name :: .symbol .openParen :: first.tokens ++
      (listed more ++ [.symbol .closeParen]), .call function (first.expr :: more.map (·.expr)),
      deepest first.nesting more + 1⟩

theorem expr_called (function : Builtin) (args : List Phrase) :
    (called function args).expr = .call function (args.map (·.expr)) := by
  cases args <;> rfl

variable {phrase : Phrase}

theorem tokens_under (ops : List UnaryOp) :
    (phrase.under ops).tokens = ops.map UnaryOp.token ++ phrase.tokens := by
  induction ops with
  | nil => rfl
  | cons op ops ih => rw [under, ih, List.map_cons, List.cons_append]

theorem tokens_joinedUnder (front : List UnaryOp) (op : BinaryOp) (left right : Phrase) :
    (joinedUnder front op left right).tokens =
      front.map UnaryOp.token ++ left.tokens ++ op.token :: right.tokens := by
  have hsplit : (front.takeWhile (· == .not)).map UnaryOp.token ++
      (front.dropWhile (· == .not)).map UnaryOp.token = front.map UnaryOp.token := by
    rw [← List.map_append, List.takeWhile_append_dropWhile]
  unfold joinedUnder
  split
  · rw [joined, tokens_under]
  · rw [tokens_under, joined, tokens_under, ← List.append_assoc, ← List.append_assoc, hsplit]

end Phrase

namespace Expr

mutual

/-- **What a printed expression is read as, without the marks in front.** -/
def core : Expr → Phrase
  | number value => ⟨[.number value.toNat], .number value, 0⟩
  | text content => ⟨[.text content], .text content, 0⟩
  | cell address => ⟨[.cell address], .cell address, 0⟩
  | unary .increment operand => operand.core.stepped .increment
  | unary .decrement operand => operand.core.stepped .decrement
  | unary .negate operand | unary .identity operand | unary .not operand | group operand =>
    operand.core
  | binary op left right =>
    (Phrase.joinedUnder left.front op left.core (right.core.under right.front)).grouped
  | call function args => .called function (readings args)

/-- What the printed forms of some expressions are read as. -/
def readings : List Expr → List Phrase
  | [] => []
  | e :: rest => e.core.under e.front :: readings rest

end

/-- **What a printed expression is read as.** -/
def reading (e : Expr) : Phrase := e.core.under e.front

section
variable {op : UnaryOp} {mark : Mark} {operand : Expr}

theorem marks_mark : (unary mark.op operand).marks = mark :: operand.marks := by
  cases mark <;> rfl

theorem core_mark : (unary mark.op operand).core = operand.core := by
  cases mark <;> rfl

theorem marks_step (h : (op.token, op) ∈ steps) : (unary op operand).marks = operand.marks := by
  cases op with
  | increment | decrement => rfl
  | _ => exact absurd h (by decide)

theorem core_step (h : (op.token, op) ∈ steps) :
    (unary op operand).core = operand.core.stepped op := by
  cases op with
  | increment | decrement => rfl
  | _ => exact absurd h (by decide)

end

/-! ### Expressions that are written -/

mutual

/-- **What every expression is that was read from a text**: numbers are without a sign, cells are
named, and functions have arguments as they take them. -/
def WellFormed : Expr → Prop
  | number value => 0 ≤ value
  | text _ => True
  | cell address => Address.Canonical address
  | unary _ operand | group operand => operand.WellFormed
  | binary _ left right => left.WellFormed ∧ right.WellFormed
  | call function args => function.accepts args.length = true ∧ AllWellFormed args

/-- Each of some expressions is well formed. -/
def AllWellFormed : List Expr → Prop
  | [] => True
  | e :: rest => e.WellFormed ∧ AllWellFormed rest

end

theorem allWellFormed_iff {es : List Expr} : AllWellFormed es ↔ ∀ e ∈ es, e.WellFormed := by
  induction es with
  | nil => simp [AllWellFormed]
  | cons e rest ih => rw [AllWellFormed, ih, List.forall_mem_cons]

theorem wellFormed_of_derives {rule : Rule} {phrase : Phrase} (h : Derives rule phrase) :
    phrase.expr.WellFormed := by
  induction h with
  | operand _ ih | comparison _ ih | stepped _ ih | primary _ ih => exact ih
  | not _ ih | sign _ _ ih | step _ _ ih | group _ ih => exact ih
  | binary _ _ _ ihleft ihright => exact ⟨ihleft, ihright⟩
  | number value => exact Int.natCast_nonneg value
  | text _ => trivial
  | cell hparse => exact Address.canonical_of_parse hparse
  | @call _ _ _ more _ _ _ haccepts ihfirst ihmore =>
    refine ⟨by simpa using haccepts, ihfirst, allWellFormed_iff.mpr fun e he => ?_⟩
    obtain ⟨phrase, hmem, rfl⟩ := List.mem_map.mp he
    exact ihmore phrase hmem

/-- **A formula is read as a well formed expression.** -/
theorem wellFormed_of_parse {formula : String} {e : Expr} (h : parse formula = .ok e) :
    e.WellFormed := by
  obtain ⟨_, _, hderives⟩ := derives_of_parse h
  exact wellFormed_of_derives hderives

end Expr

/-! ### Printed forms as characters -/

section
variable {rest : List Char} {tokens : List Token}

/-- What may stand behind a printed operand. -/
def Behind (rest : List Char) : Prop := ∀ c ∈ rest.head?, c ∈ [' ', ')', ',', '+', '-']

theorem Behind.stops {p : Char → Bool} (h : Behind rest)
    (hp : [' ', ')', ',', '+', '-'].any p = false) : Stops p rest :=
  fun c hc => Bool.eq_false_iff.mpr (List.any_eq_false.mp hp c (h c hc))

theorem Behind.stops_word (h : Behind rest) : Stops isWordChar rest := h.stops (by decide)

theorem behind_cons {c : Char} (h : c ∈ [' ', ')', ',', '+', '-']) : Behind (c :: rest) := by
  intro d hd
  rwa [← Option.some.inj hd]

/-- A sign is not joined with another mark, or with what comes behind the marks. -/
theorem stops_marks {p : Char → Bool} {ms : List Mark} (hrest : Stops p rest)
    (hfirst : ∀ mark ∈ ms.head?, mark.chars.head?.any p = false) :
    Stops p (ms.flatMap Mark.chars ++ rest) := by
  cases ms with
  | nil => exact hrest
  | cons mark ms =>
    have hmark := hfirst mark rfl
    cases mark <;> exact stops_cons.mpr hmark

/-- **Marks are read as they fuse.** -/
theorem Spells.marks (hrest : Stops ['+', '-'].contains rest) (h : Spells rest tokens)
    (ms : List Mark) :
    Spells (ms.flatMap Mark.chars ++ rest) ((fuse ms).map UnaryOp.token ++ tokens) := by
  have hsign : ∀ {c : Char}, ['+', '-'].contains c = true → Stops [c].contains rest := by
    intro c hc d hd
    rw [Bool.eq_false_iff]
    intro he
    rw [List.contains_iff_mem, List.mem_singleton] at he
    exact absurd (he ▸ hrest d hd) (by rw [hc]; exact Bool.noConfusion)
  induction ms using fuse.induct with
  | case1 => exact h
  | case2 ms ih => exact .symbol .decrement (fun _ _ => rfl) ih
  | case3 ms ih => exact .symbol .increment (fun _ _ => rfl) ih
  | case4 mark ms hminus hplus ih =>
    have hfuse : fuse (mark :: ms) = mark.op :: fuse ms := by
      rw [fuse] <;> assumption
    rw [hfuse]
    cases mark with
    | minus =>
      refine .symbol .minus (stops_marks (hsign rfl) fun next hnext => ?_) ih
      obtain ⟨more, rfl⟩ := List.head?_eq_some_iff.mp hnext
      cases next with
      | minus => exact absurd rfl (hminus more rfl)
      | plus | not => rfl
    | plus =>
      refine .symbol .plus (stops_marks (hsign rfl) fun next hnext => ?_) ih
      obtain ⟨more, rfl⟩ := List.head?_eq_some_iff.mp hnext
      cases next with
      | plus => exact absurd rfl (hplus more rfl)
      | minus | not => rfl
    | not => exact .keyword .not (stops_cons.mpr rfl) (.space rfl ih)

/-- An operator is printed as its token, a symbol or a keyword. -/
theorem BinaryOp.spelling_cases (op : BinaryOp) :
    (∃ symbol, op.token = .symbol symbol ∧ op.spelling = symbol.spelling) ∨
      ∃ keyword, op.token = .keyword keyword ∧ op.spelling = keyword.spelling := by
  cases op with
  | mod | and | or | eqv => exact Or.inr ⟨_, rfl, rfl⟩
  | _ => exact Or.inl ⟨_, rfl, rfl⟩

/-- An operator is printed between blanks. -/
theorem Spells.operator (op : BinaryOp) (h : Spells rest tokens) :
    Spells (' ' :: (op.spelling.toList ++ ' ' :: rest)) (op.token :: tokens) := by
  refine .space rfl ?_
  have hspace : Spells (' ' :: rest) tokens := .space rfl h
  obtain ⟨symbol, htoken, hspelling⟩ | ⟨keyword, htoken, hspelling⟩ := op.spelling_cases
  · rw [htoken, hspelling]
    exact .symbol symbol (stops_cons.mpr (by cases symbol <;> rfl)) hspace
  · rw [htoken, hspelling]
    exact .keyword keyword (stops_cons.mpr rfl) hspace

end

theorem stops_append {p : Char → Bool} {cs rest : List Char} (hne : cs ≠ [])
    (h : ∀ c ∈ cs, p c = false) : Stops p (cs ++ rest) := by
  cases cs with
  | nil => exact absurd rfl hne
  | cons c cs => exact stops_cons.mpr (h c List.mem_cons_self)

theorem beq_of_isWordChar {c d : Char} (hc : isWordChar c = true) (hd : isWordChar d = false) :
    (c == d) = false := by
  rw [beq_eq_false_iff_ne]
  rintro rfl
  exact Bool.false_ne_true (hd.symm.trans hc)

theorem not_sign_of_isWordChar {c : Char} (h : isWordChar c = true) :
    ['+', '-'].contains c = false := by
  rw [List.contains_cons, List.contains_cons, List.contains_nil, beq_of_isWordChar h rfl,
    beq_of_isWordChar h rfl]
  rfl

namespace Expr
variable {rest : List Char} {tokens : List Token}

/-- The characters of arguments behind the first one. -/
def moreChars (args : List Expr) : List Char :=
  args.flatMap fun e => ',' :: ' ' :: e.render.toList

theorem toList_render_number (number : Nat) :
    (render (.number number)).toList = Nat.toDigits 10 number :=
  toList_toString_ofNat number

theorem toList_render_mark {mark : Mark} {operand : Expr} :
    (unary mark.op operand).render.toList = mark.chars ++ operand.render.toList := by
  cases mark <;> simp [render, Mark.chars, Mark.op]

/-- A step is spelled behind its operand. -/
theorem spells_step {op : UnaryOp} (hstep : (op.token, op) ∈ steps) (h : Spells rest tokens) :
    ∃ chars, (∀ operand, (unary op operand).render.toList = operand.render.toList ++ chars) ∧
      Behind (chars ++ rest) ∧ Spells (chars ++ rest) (op.token :: tokens) := by
  cases op with
  | increment =>
    exact ⟨['+', '+'], fun _ => by simp [render], behind_cons (by decide),
      .symbol .increment (fun _ _ => rfl) h⟩
  | decrement =>
    exact ⟨['-', '-'], fun _ => by simp [render], behind_cons (by decide),
      .symbol .decrement (fun _ _ => rfl) h⟩
  | _ => exact absurd hstep (by decide)

theorem renderAll_eq_map (es : List Expr) : renderAll es = es.map render := by
  induction es with
  | nil => rfl
  | cons e rest ih => rw [renderAll, ih, List.map_cons]

theorem toList_intercalate_render (first : Expr) (more : List Expr) :
    (", ".intercalate (renderAll (first :: more))).toList =
      first.render.toList ++ moreChars more := by
  rw [String.toList_intercalate, renderAll_eq_map]
  induction more generalizing first with
  | nil => simp [moreChars]
  | cons next more ih =>
    have hnext := ih next
    simp only [List.map_cons] at hnext ⊢
    rw [List.intercalate_cons_cons, hnext]
    simp [moreChars]

theorem behind_moreChars (more : List Expr) (hrest : Behind rest) :
    Behind (moreChars more ++ rest) := by
  cases more with
  | nil => exact hrest
  | cons next more => exact behind_cons (by decide)

mutual

/-- **A printed expression is spelled with the tokens that it is read as,** with any marks in front
of it. -/
theorem spells_render : ∀ (e : Expr) (ms : List Mark) {rest : List Char} {tokens : List Token},
    e.WellFormed → Behind rest → Spells rest tokens →
    Spells (ms.flatMap Mark.chars ++ (e.render.toList ++ rest))
      ((fuse (ms ++ e.marks)).map UnaryOp.token ++ (e.core.tokens ++ tokens))
  | .number value, ms, rest, tokens, hwell, hbehind, h => by
    obtain ⟨number, rfl⟩ := Int.eq_ofNat_of_zero_le hwell
    have hnumber := Spells.number number hbehind.stops_word.isDigit h
    have hspells := hnumber.marks (stops_append Nat.toDigits_ne_nil fun c hc =>
      not_sign_of_isWordChar (isWordChar_of_isDigit (isDigit_of_mem_toDigits hc))) ms
    rw [toList_render_number, marks, core, List.append_nil, Int.toNat_natCast]
    exact hspells
  | .text content, ms, rest, tokens, hwell, hbehind, h => by
    have htext := Spells.text content (hbehind.stops (by decide)) h
    have hquote : Stops ['+', '-'].contains ((quoteLiteral content).toList ++ rest) := by
      rw [quoteLiteral, String.toList_ofList]
      exact stops_cons.mpr rfl
    have hspells := htext.marks hquote ms
    rw [render, marks, core, List.append_nil]
    exact hspells
  | .cell address, ms, rest, tokens, hwell, hbehind, h => by
    obtain ⟨cell, -, rfl⟩ := hwell
    have hcell := Spells.address cell hbehind.stops_word h
    have hspells := hcell.marks (stops_append (cell.toList_address_ne_nil) fun c hc =>
      not_sign_of_isWordChar (isWordChar_of_mem_address cell hc)) ms
    rw [render, marks, core, List.append_nil]
    exact hspells
  | .unary op operand, ms, rest, tokens, hwell, hbehind, h => by
    obtain ⟨mark, rfl⟩ | hstep := op.mark_or_step
    · have hspells := spells_render operand (ms ++ [mark]) hwell hbehind h
      rw [toList_render_mark, marks_mark, core_mark]
      simpa using hspells
    · obtain ⟨chars, hrender, hchars, hspelled⟩ := spells_step hstep h
      have hspells := spells_render operand ms hwell hchars hspelled
      rw [hrender, marks_step hstep, core_step hstep]
      simpa [Phrase.stepped] using hspells
  | .binary op left right, ms, rest, tokens, ⟨hleft, hright⟩, hbehind, h => by
    have hclose : Spells (')' :: rest) (.symbol .closeParen :: tokens) :=
      .symbol .closeParen (fun _ _ => rfl) h
    have hsecond := spells_render right [] hright (behind_cons (by decide)) hclose
    have hfirst := spells_render left [] hleft (behind_cons (by decide)) (hsecond.operator op)
    have hopen : Spells ('(' :: _) (.symbol .openParen :: _) :=
      .symbol .openParen (fun _ _ => rfl) hfirst
    have hspells := hopen.marks (stops_cons.mpr rfl) ms
    simpa [render, marks, core, front, Phrase.grouped, Phrase.tokens_joinedUnder,
      Phrase.tokens_under] using hspells
  | .call function [], ms, rest, tokens, hwell, hbehind, h => by
    have hnone : function.accepts 0 = false := by cases function <;> rfl
    exact absurd hwell.1 (by rw [List.length_nil, hnone]; exact Bool.false_ne_true)
  | .call function (first :: more), ms, rest, tokens, ⟨_, hfirst, hmore⟩, hbehind, h => by
    have hclose : Spells (')' :: rest) (.symbol .closeParen :: tokens) :=
      .symbol .closeParen (fun _ _ => rfl) h
    have hrest := spells_moreChars more hmore (behind_cons (by decide)) hclose
    have hargs := spells_render first [] hfirst
      (behind_moreChars more (behind_cons (by decide))) hrest
    have hopen : Spells ('(' :: _) (.symbol .openParen :: _) :=
      .symbol .openParen (fun _ _ => rfl) hargs
    have hname := Spells.name function (stops_cons.mpr rfl) hopen
    have hspells := hname.marks (stops_append (by cases function <;> decide) fun c hc =>
      not_sign_of_isWordChar (isWordChar_of_mem_name hc)) ms
    have hchars := toList_intercalate_render first more
    simpa [render, marks, core, readings, front, Phrase.called, Phrase.tokens_under, hchars]
      using hspells
  | .group inner, ms, rest, tokens, hwell, hbehind, h => by
    have hspells := spells_render inner ms hwell hbehind h
    simpa [render, marks, core] using hspells

/-- Arguments are spelled with the tokens that they are read as. -/
theorem spells_moreChars : ∀ (more : List Expr) {rest : List Char} {tokens : List Token},
    AllWellFormed more → Behind rest → Spells rest tokens →
    Spells (moreChars more ++ rest) (Phrase.listed (readings more) ++ tokens)
  | [], rest, tokens, _, _, h => h
  | e :: more, rest, tokens, ⟨he, hmore⟩, hbehind, h => by
    have hrest := spells_moreChars more hmore hbehind h
    have harg := spells_render e [] he (behind_moreChars more hbehind) hrest
    have hcomma : Spells (',' :: ' ' :: _) (.symbol .comma :: _) :=
      .symbol .comma (fun _ _ => rfl) (.space rfl harg)
    simpa [moreChars, readings, front, Phrase.listed, Phrase.tokens_under] using hcomma

end

/-- **The tokens of a printed expression** are those that it is read as. -/
theorem tokenize_render {e : Expr} (h : e.WellFormed) :
    ∃ found, tokenize e.render = .ok found ∧ found.kinds = e.reading.tokens := by
  have hbehind : Behind [] := nofun
  have hspells := spells_render e [] h hbehind .nil
  rw [reading, Phrase.tokens_under, front]
  exact Spells.tokenize (by simpa using hspells)

/-- No printed expression begins with an equals sign. -/
theorem stops_equals_render : ∀ (e : Expr) {rest : List Char}, e.WellFormed →
    Stops (· == '=') (e.render.toList ++ rest)
  | .number value, rest, hwell => by
    obtain ⟨number, rfl⟩ := Int.eq_ofNat_of_zero_le hwell
    rw [toList_render_number]
    exact stops_append Nat.toDigits_ne_nil fun c hc => beq_of_isWordChar
      (isWordChar_of_isDigit (isDigit_of_mem_toDigits hc)) rfl
  | .text content, rest, _ => by
    rw [render, quoteLiteral, String.toList_ofList]
    exact stops_cons.mpr rfl
  | .cell address, rest, hwell => by
    obtain ⟨cell, -, rfl⟩ := hwell
    rw [render]
    exact stops_append cell.toList_address_ne_nil fun c hc =>
      beq_of_isWordChar (isWordChar_of_mem_address cell hc) rfl
  | .unary .negate operand, rest, _ => by
    rw [render, String.toList_append]
    exact stops_cons.mpr rfl
  | .unary .identity operand, rest, _ => by
    rw [render, String.toList_append]
    exact stops_cons.mpr rfl
  | .unary .not operand, rest, _ => by
    rw [render, String.toList_append]
    exact stops_cons.mpr rfl
  | .unary .increment operand, rest, hwell | .unary .decrement operand, rest, hwell => by
    rw [render, String.toList_append, List.append_assoc]
    exact stops_equals_render operand hwell
  | .binary op left right, rest, _ => by
    simp only [render, String.toList_append]
    exact stops_cons.mpr rfl
  | .call function args, rest, _ => by
    simp only [render, String.toList_append]
    cases function <;> exact stops_cons.mpr rfl
  | .group inner, rest, hwell => by
    rw [render]
    exact stops_equals_render inner hwell

theorem body_render {e : Expr} (h : e.WellFormed) : body e.render = e.render := by
  have hstop : Stops (· == '=') (e.render.toList ++ []) := stops_equals_render e h
  rw [List.append_nil] at hstop
  exact body_of_plain fun hhead => absurd (hstop '=' hhead) (by decide)

/-- **A printed expression is read as an expression exactly when the grammar derives that from its
tokens,** within the limits. -/
theorem parse_render_eq_ok {e found : Expr} (h : e.WellFormed) : parse e.render = .ok found ↔
    ∃ n ≤ maxNesting, found.height ≤ maxHeight ∧
      Derives (.tier .logical) ⟨e.reading.tokens, found, n⟩ := by
  obtain ⟨tokens, htokens, hkinds⟩ := tokenize_render h
  rw [parse_eq_ok, body_render h, parseBody, htokens, ← hkinds]
  exact parseTokens_eq_ok

end Expr
end Gridcalc.Formula
