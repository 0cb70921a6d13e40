import Gridcalc.Proofs.Address
import Gridcalc.Proofs.Formula.Parsing
import Gridcalc.Proofs.Formula.Value

/-! # Spelled tokens

`Spells cs tokens` says that the characters are cut into these tokens from the left, with blanks
between them, each token taking as many characters as it can.  It leaves the offsets out, and so it
can be put together from the right: what a token takes depends on the text behind it only by the
next character.  `tokenize` reads what is spelled (`Spells.tokenize`).

Then there is one lemma for each kind of token.  It says how the token is written, and which
characters must not come next, because the token would go on with them.
-/
namespace Gridcalc.Formula
variable {c : Char} {cs more rest : List Char} {tokens : List Token}

/-- **The characters are cut into these tokens.** -/
inductive Spells : List Char → List Token → Prop
  | nil : Spells [] []
  | space {c : Char} {cs : List Char} {tokens : List Token} : isSpace c = true →
      Spells cs tokens → Spells (c :: cs) tokens
  | token {c : Char} {more rest : List Char} {token : Token} {tokens : List Token} :
      isSpace c = false → lexeme c (more ++ rest) = .ok (token, more) → Spells rest tokens →
      Spells (c :: (more ++ rest)) (token :: tokens)

theorem Spells.scan (h : Spells cs tokens) : ∀ (offset : Nat) (read : List Placed),
    ∃ found, Tokens.scan offset read cs = .ok found ∧
      found.kinds = (read.map (·.token)).reverse ++ tokens := by
  induction h with
  | nil =>
    intro offset read
    exact ⟨_, by rw [Tokens.scan], by simp [Tokens.kinds]⟩
  | space hspace _ ih =>
    intro offset read
    rw [Tokens.scan, if_pos hspace]
    exact ih _ _
  | @token c more rest token _ hspace hlexeme _ ih =>
    intro offset read
    obtain ⟨found, hfound, hkinds⟩ := ih (offset + byteLength (c :: more)) (⟨token, offset⟩ :: read)
    refine ⟨found, ?_, by simpa using hkinds⟩
    rw [Tokens.scan, if_neg (by rw [hspace]; exact Bool.false_ne_true), hlexeme]
    simp only [List.drop_left]
    exact hfound

/-- **What is spelled is read.** -/
theorem Spells.tokenize {text : String} (h : Spells text.toList tokens) :
    ∃ found, tokenize text = .ok found ∧ found.kinds = tokens :=
  h.scan 0 []

/-! ### Where a token stops -/

/-- The next character is not one of these. -/
def Stops (p : Char → Bool) (rest : List Char) : Prop := ∀ c ∈ rest.head?, p c = false

theorem stops_cons {p : Char → Bool} : Stops p (c :: rest) ↔ p c = false := by
  simp [Stops]

theorem Stops.takeWhile {p : Char → Bool} (h : Stops p rest) (hmore : ∀ c ∈ more, p c = true) :
    (more ++ rest).takeWhile p = more := by
  rw [List.takeWhile_append_of_pos hmore]
  cases rest with
  | nil => exact List.append_nil more
  | cons c rest =>
    rw [List.takeWhile_cons_of_neg (by rw [h c rfl]; exact Bool.false_ne_true), List.append_nil]

theorem isWordChar_of_isDigit (h : c.isDigit = true) : isWordChar c = true := by
  rw [isWordChar, Char.isAlphanum, h, Bool.or_true, Bool.true_or]

theorem isWordChar_of_isAlpha (h : c.isAlpha = true) : isWordChar c = true := by
  rw [isWordChar, Char.isAlphanum, h, Bool.true_or, Bool.true_or]

theorem isWordChar_of_isWordStart (h : isWordStart c = true) : isWordChar c = true := by
  rw [isWordStart, Bool.or_eq_true] at h
  rcases h with h | h
  · exact isWordChar_of_isAlpha h
  · rw [isWordChar, h, Bool.or_true]

theorem isSpace_of_isWordChar (h : isWordChar c = true) : isSpace c = false := by
  rw [Bool.eq_false_iff]
  intro hspace
  simp only [isSpace, Bool.or_eq_true, beq_iff_eq] at hspace
  rcases hspace with (((rfl | rfl) | rfl) | rfl) | rfl <;> exact absurd h (by decide)

theorem isWordChar_of_mem_name {function : Builtin} (h : c ∈ function.name.toList) :
    isWordChar c = true := by
  have hall : function.name.toList.all isWordChar = true := by cases function <;> decide
  exact List.all_eq_true.mp hall c h

theorem Stops.isDigit (h : Stops isWordChar rest) : Stops Char.isDigit rest := by
  intro c hc
  rw [Bool.eq_false_iff]
  intro hdigit
  exact absurd (isWordChar_of_isDigit hdigit) (Bool.eq_false_iff.mp (h c hc))

/-! ### One token

Each kind of token is read from its characters, when what comes behind them does not go on with
it. -/

theorem lexeme_digits {first : Char} (hfirst : first.isDigit = true)
    (hmore : ∀ c ∈ more, c.isDigit = true) (hstop : Stops Char.isDigit rest) :
    lexeme first (more ++ rest) =
      .ok (.number (Nat.ofDigitChars 10 (first :: more) 0), more) := by
  rw [lexeme, if_pos hfirst]
  simp only [hstop.takeWhile hmore]

theorem literalBody?_doubleQuotes (hstop : Stops (· == '"') rest) : ∀ content : List Char,
    literalBody? (doubleQuotes content ++ '"' :: rest) = some (doubleQuotes content)
  | [] => by
    cases rest with
    | nil => rfl
    | cons next rest =>
      have hnext : next ≠ '"' := fun he => by simpa [he] using hstop next rfl
      simp [doubleQuotes, literalBody?, hnext]
  | c :: content => by
    have ih := literalBody?_doubleQuotes hstop content
    by_cases hc : c = '"'
    · subst hc
      simp [doubleQuotes, literalBody?, ih]
    · simp [doubleQuotes, literalBody?, hc, ih]

theorem lexeme_text (content : String) (hstop : Stops (· == '"') rest) :
    lexeme '"' ((doubleQuotes content.toList ++ ['"']) ++ rest) =
      .ok (.text content, doubleQuotes content.toList ++ ['"']) := by
  rw [List.append_assoc, List.singleton_append, lexeme, if_neg (by decide), if_pos rfl,
    literalBody?_doubleQuotes hstop content.toList]
  simp only [halveQuotes_doubleQuotes, String.ofList_toList]

/-- A word begins with no digit and with no quote. -/
theorem of_isWordStart (h : isWordStart c = true) : c.isDigit = false ∧ c ≠ '"' := by
  constructor
  · rw [Bool.eq_false_iff]
    intro hdigit
    rw [isWordStart, CellRef.isAlpha_eq_false_of_isDigit hdigit, Bool.false_or, beq_iff_eq] at h
    subst h
    exact absurd hdigit (by decide)
  · rintro rfl
    exact absurd h (by decide)

theorem lexeme_word {first : Char} (hstart : isWordStart first = true)
    (hmore : ∀ c ∈ more, isWordChar c = true) (hstop : Stops isWordChar rest) :
    lexeme first (more ++ rest) = .ok (.ofWord (first :: more), more) := by
  obtain ⟨hdigit, hquote⟩ := of_isWordStart hstart
  rw [lexeme, hdigit, if_neg Bool.false_ne_true, if_neg hquote, if_pos hstart]
  simp only [hstop.takeWhile hmore]

/-! ### Numbers -/

namespace Spells

theorem digits {first : Char} (hfirst : first.isDigit = true) (hmore : ∀ c ∈ more, c.isDigit = true)
    (hstop : Stops Char.isDigit rest) (h : Spells rest tokens) :
    Spells (first :: (more ++ rest))
      (.number (Nat.ofDigitChars 10 (first :: more) 0) :: tokens) :=
  .token (isSpace_of_isWordChar (isWordChar_of_isDigit hfirst)) (lexeme_digits hfirst hmore hstop) h

/-- A number is spelled by its decimal digits. -/
theorem number (value : Nat) (hstop : Stops Char.isDigit rest) (h : Spells rest tokens) :
    Spells (Nat.toDigits 10 value ++ rest) (.number value :: tokens) := by
  have hdigit : ∀ c ∈ Nat.toDigits 10 value, c.isDigit = true := fun _ =>
    isDigit_of_mem_toDigits
  have hvalue : Nat.ofDigitChars 10 (Nat.toDigits 10 value) 0 = value :=
    Nat.ofDigitChars_ten_toDigits
  cases hdigits : Nat.toDigits 10 value with
  | nil => exact absurd hdigits Nat.toDigits_ne_nil
  | cons first more =>
    rw [hdigits] at hdigit hvalue
    obtain ⟨hfirst, hmore⟩ := List.forall_mem_cons.mp hdigit
    have hspells := digits hfirst hmore hstop h
    rwa [hvalue] at hspells

/-! ### Text literals -/

/-- A text is spelled between quotes, with the quotes inside it doubled. -/
theorem text (content : String) (hstop : Stops (· == '"') rest) (h : Spells rest tokens) :
    Spells ((quoteLiteral content).toList ++ rest) (.text content :: tokens) := by
  have hchars : (quoteLiteral content).toList ++ rest =
      '"' :: ((doubleQuotes content.toList ++ ['"']) ++ rest) := by
    simp [quoteLiteral]
  rw [hchars]
  exact .token rfl (lexeme_text content hstop) h

/-! ### Words -/

/-- A word is spelled as it is. -/
theorem word (letters : List Char) (hfirst : letters.head?.any Char.isAlpha = true)
    (hletters : ∀ c ∈ letters, isWordChar c = true) (hstop : Stops isWordChar rest)
    (h : Spells rest tokens) : Spells (letters ++ rest) (.ofWord letters :: tokens) := by
  cases letters with
  | nil => exact absurd hfirst Bool.false_ne_true
  | cons first more =>
    have hfirst : first.isAlpha = true := hfirst
    obtain ⟨hword, hmore⟩ := List.forall_mem_cons.mp hletters
    have hstart : isWordStart first = true := by rw [isWordStart, hfirst, Bool.true_or]
    exact .token (isSpace_of_isWordChar hword) (lexeme_word hstart hmore hstop) h

theorem keyword (k : Keyword) (hstop : Stops isWordChar rest) (h : Spells rest tokens) :
    Spells (k.spelling.toList ++ rest) (.keyword k :: tokens) := by
  have hfirst : k.spelling.toList.head?.any Char.isAlpha = true := by cases k <;> decide
  have hletters : k.spelling.toList.all isWordChar = true := by cases k <;> decide
  have hword := word k.spelling.toList hfirst (List.all_eq_true.mp hletters) hstop h
  have htoken : Token.ofWord k.spelling.toList = .keyword k := by cases k <;> decide
  rwa [htoken] at hword

/-- The name of a function is no keyword and not like a cell. -/
theorem name (function : Builtin) (hstop : Stops isWordChar rest) (h : Spells rest tokens) :
    Spells (function.name.toList ++ rest) (.name function.name :: tokens) := by
  have hword := word function.name.toList (by cases function <;> decide)
    (fun _ => isWordChar_of_mem_name) hstop h
  have htoken : Token.ofWord function.name.toList = .name function.name := by
    cases function <;> decide
  rwa [htoken] at hword

end Spells

/-! ### Addresses -/

theorem isUpper_or_isLower_of_isDigit (h : c.isDigit = true) : (c.isUpper || c.isLower) = false :=
  CellRef.isAlpha_eq_false_of_isDigit h

theorem toLower_of_isDigit (h : c.isDigit = true) : c.toLower = c := by
  obtain ⟨hupper, -⟩ := Bool.or_eq_false_iff.mp (isUpper_or_isLower_of_isDigit h)
  exact dif_neg (of_decide_eq_false hupper)

theorem toUpper_of_isDigit (h : c.isDigit = true) : c.toUpper = c := by
  obtain ⟨-, hlower⟩ := Bool.or_eq_false_iff.mp (isUpper_or_isLower_of_isDigit h)
  have hrange : ¬ ('a'.val ≤ c.val ∧ c.val ≤ 'z'.val) := fun hin =>
    Bool.eq_false_iff.mp hlower ((Bool.and_eq_true _ _).mpr
      ⟨decide_eq_true hin.1, decide_eq_true hin.2⟩)
  exact dif_neg hrange

/-- No keyword has a digit in it. -/
theorem ofSpelling?_eq_none (hmem : c ∈ cs) (hc : c.isDigit = true) :
    Keyword.ofSpelling? (String.ofList (cs.map Char.toLower)) = none := by
  refine List.find?_eq_none.mpr fun k _ hk => ?_
  have hspelling : k.spelling.toList = cs.map Char.toLower := by
    rw [of_decide_eq_true hk, String.toList_ofList]
  have hnone : k.spelling.toList.any Char.isDigit = false := by cases k <;> decide
  have hdigit : c ∈ k.spelling.toList := by
    rw [hspelling]
    exact List.mem_map.mpr ⟨c, hmem, toLower_of_isDigit hc⟩
  exact List.any_eq_false.mp hnone c hdigit hc

section CellAddress
variable (cell : CellRef)

theorem isWordChar_of_mem_address (h : c ∈ cell.address.toList) : isWordChar c = true := by
  rw [CellRef.toList_address, List.mem_append] at h
  rcases h with h | h
  · exact isWordChar_of_isAlpha (Address.isAlpha_of_mem_columnLetters h)
  · exact isWordChar_of_isDigit (isDigit_of_mem_toDigits h)

theorem map_toUpper_address : cell.address.toList.map Char.toUpper = cell.address.toList := by
  refine List.map_congr_left (g := id) (fun c hc => ?_) |>.trans (List.map_id _)
  rw [CellRef.toList_address, List.mem_append] at hc
  rcases hc with hc | hc
  · exact Address.toUpper_of_mem_columnLetters hc
  · exact toUpper_of_isDigit (isDigit_of_mem_toDigits hc)

theorem isCellShaped_address : isCellShaped cell.address.toList = true := by
  have hletters := List.isEmpty_eq_false_iff.mpr
    (Address.columnLetters_succ_ne_nil cell.col.toNat)
  have hdigits : (Nat.toDigits 10 (cell.row.toNat + 1)).isEmpty = false :=
    List.isEmpty_eq_false_iff.mpr Nat.toDigits_ne_nil
  simp only [isCellShaped, CellRef.takeWhile_address, CellRef.dropWhile_address, hletters, hdigits,
    Bool.not_false, Bool.true_and, List.all_eq_true]
  exact fun _ => isDigit_of_mem_toDigits

/-- The address of a cell is read as a reference to it. -/
theorem ofWord_address : Token.ofWord cell.address.toList = .cell cell.address := by
  obtain ⟨digit, hdigit⟩ :=
    List.exists_mem_of_ne_nil _ (Nat.toDigits_ne_nil (b := 10) (n := cell.row.toNat + 1))
  have hmem : digit ∈ cell.address.toList := by
    rw [CellRef.toList_address]
    exact List.mem_append_right _ hdigit
  rw [Token.ofWord, ofSpelling?_eq_none hmem (isDigit_of_mem_toDigits hdigit)]
  simp only [isCellShaped_address, if_true, map_toUpper_address, String.ofList_toList]

theorem Spells.address (hstop : Stops isWordChar rest) (h : Spells rest tokens) :
    Spells (cell.address.toList ++ rest) (.cell cell.address :: tokens) := by
  have hfirst : cell.address.toList.head?.any Char.isAlpha = true := by
    rw [CellRef.toList_address]
    cases hletters : Address.columnLetters (cell.col.toNat + 1) with
    | nil => exact absurd hletters (Address.columnLetters_succ_ne_nil _)
    | cons first more => exact Address.isAlpha_of_mem_columnLetters (hletters ▸ List.mem_cons_self)
  have hword := Spells.word cell.address.toList hfirst (fun _ => isWordChar_of_mem_address cell)
    hstop h
  rwa [ofWord_address] at hword

end CellAddress

/-! ### Symbols -/

/-- The characters that make a longer symbol when they stand behind one. -/
def Symbol.longer : Symbol → List Char
  | plus => ['+']
  | minus => ['-']
  | less => ['>', '=']
  | greater => ['=']
  | _ => []

theorem atFront?_spelling (s : Symbol) (hstop : Stops s.longer.contains rest) :
    Symbol.atFront? (s.spelling.toList ++ rest) = some s := by
  cases rest with
  | nil => cases s <;> decide
  | cons next rest =>
    have hother : ∀ c ∈ s.longer, (c == next) = false := by
      rintro c hc
      rw [beq_eq_false_iff_ne]
      rintro rfl
      exact Bool.false_ne_true ((hstop c rfl).symm.trans (List.contains_iff_mem.mpr hc))
    unfold Symbol.atFront? Symbol.all
    cases s with
    | plus => simp [Symbol.spelling, List.isPrefixOf, hother '+' (by decide)]
    | minus => simp [Symbol.spelling, List.isPrefixOf, hother '-' (by decide)]
    | less =>
      simp [Symbol.spelling, List.isPrefixOf, hother '>' (by decide), hother '=' (by decide)]
    | greater => simp [Symbol.spelling, List.isPrefixOf, hother '=' (by decide)]
    | _ => simp [Symbol.spelling, List.isPrefixOf]

/-- A symbol begins with no blank and like no other token. -/
theorem of_mem_head?_spelling {s : Symbol} (h : c ∈ s.spelling.toList.head?) :
    isSpace c = false ∧ c.isDigit = false ∧ c ≠ '"' ∧ isWordStart c = false := by
  have hplain : s.spelling.toList.head?.all (fun c =>
      !isSpace c && !c.isDigit && c != '"' && !isWordStart c) = true := by
    cases s <;> decide
  rw [Option.mem_def.mp h] at hplain
  simpa [and_assoc] using hplain

theorem lexeme_symbol {s : Symbol} (hspelling : s.spelling.toList = c :: more)
    (hstop : Stops s.longer.contains rest) :
    lexeme c (more ++ rest) = .ok (.symbol s, more) := by
  have hfront := atFront?_spelling s hstop
  obtain ⟨-, hdigit, hquote, hstart⟩ := of_mem_head?_spelling (s := s) (by rw [hspelling]; rfl)
  rw [hspelling, List.cons_append] at hfront
  rw [lexeme, hdigit, if_neg Bool.false_ne_true, if_neg hquote, hstart, if_neg Bool.false_ne_true,
    hfront]
  simp only [hspelling, List.tail_cons]

theorem Spells.symbol (s : Symbol) (hstop : Stops s.longer.contains rest) (h : Spells rest tokens) :
    Spells (s.spelling.toList ++ rest) (.symbol s :: tokens) := by
  cases hspelling : s.spelling.toList with
  | nil => cases s <;> exact absurd hspelling (by decide)
  | cons first more =>
    obtain ⟨hspace, -⟩ := of_mem_head?_spelling (s := s) (by rw [hspelling]; rfl)
    exact .token hspace (lexeme_symbol hspelling hstop) h

end Gridcalc.Formula
