import Gridcalc.Proofs.Address.Language
import Gridcalc.Proofs.Formula.Lexing

/-! # Texts cut into tokens

A lexeme is the writing of one token: digits, a word, a symbol, or a text between quotes, and it is
always known for which token it stands (`IsLexeme`).  Where a token goes on with the next character,
it may not end in front of it (`Token.GoesOn`).  `Segments` cuts a text from the left into lexemes
with blanks between them, and says at which byte each of them begins.

There is one way to do so, and it is how tokens are read (`tokenize_exact`).  Where a text cannot be
cut further, a character begins no lexeme, or a quote is never closed (`Stuck`), and this is where
the error is reported.
-/
namespace Gridcalc.Formula
variable {c next : Char} {cs more rest word lexeme gap left : List Char} {token : Token}
  {offset position : Nat} {placed : List Placed}

/-! ### Lexemes -/

/-- What a word stands for: a keyword in any case, else a cell in capitals if it is letters and then
digits, else a name. -/
inductive StandsFor (word : List Char) : Token → Prop
  | keyword (k : Keyword) : word.map Char.toLower = k.spelling.toList → StandsFor word (.keyword k)
  | cell {letters digits : List Char} : Address.LettersThenDigits word letters digits →
      StandsFor word (.cell (String.ofList (word.map Char.toUpper)))
  | name : (∀ k : Keyword, word.map Char.toLower ≠ k.spelling.toList) →
      (∀ letters digits, ¬ Address.LettersThenDigits word letters digits) →
      StandsFor word (.name (String.ofList word))

/-- **The writing of one token.** -/
inductive IsLexeme : List Char → Token → Prop
  | number {digits : List Char} : digits ≠ [] → (∀ c ∈ digits, c.isDigit = true) →
      IsLexeme digits (.number (Text.decimal digits))
  | text (content : String) :
      IsLexeme ('"' :: (doubleQuotes content.toList ++ ['"'])) (.text content)
  | word {first : Char} {more : List Char} {token : Token} : isWordStart first = true →
      (∀ c ∈ more, isWordChar c = true) → StandsFor (first :: more) token →
      IsLexeme (first :: more) token
  | symbol (s : Symbol) : IsLexeme s.spelling.toList (.symbol s)

/-- **Whether a token goes on with a character** that comes behind it. -/
def Token.GoesOn : Token → Char → Prop
  | .number _, next => next.isDigit = true
  | .text _, next => next = '"'
  | .cell _, next | .name _, next | .keyword _, next => isWordChar next = true
  | .symbol s, next => ∃ longer : Symbol, longer.spelling.toList = s.spelling.toList ++ [next]

/-! ### Words -/

theorem ofSpelling?_eq_some {k : Keyword} :
    Keyword.ofSpelling? (String.ofList cs) = some k ↔ cs = k.spelling.toList := by
  constructor
  · intro h
    have hfound := List.find?_some h
    rw [of_decide_eq_true hfound, String.toList_ofList]
  · rintro rfl
    rw [String.ofList_toList]
    cases k <;> decide

theorem isCellShaped_iff : isCellShaped word = true ↔
    ∃ letters digits, Address.LettersThenDigits word letters digits := by
  constructor
  · intro h
    simp only [isCellShaped, Bool.and_eq_true, Bool.not_eq_true', List.isEmpty_eq_false_iff,
      List.all_eq_true] at h
    have hparted := Address.parted_spans word
    exact ⟨_, _, hparted.split, h.1.1, hparted.alpha, h.1.2, h.2⟩
  · rintro ⟨letters, digits, h⟩
    simp only [isCellShaped, h.parted.takeWhile, h.parted.dropWhile,
      List.isEmpty_eq_false_iff.mpr h.letters_ne_nil, List.isEmpty_eq_false_iff.mpr h.digits_ne_nil,
      List.all_eq_true.mpr h.digit, Bool.not_false, Bool.and_self]

/-- **A word stands for the token that it is read as,** and for no other. -/
theorem standsFor_iff : StandsFor word token ↔ Token.ofWord word = token := by
  constructor
  · intro h
    cases h with
    | keyword k hk => rw [Token.ofWord, ofSpelling?_eq_some.mpr hk]
    | cell hshape =>
      obtain ⟨digit, hdigit⟩ := List.exists_mem_of_ne_nil _ hshape.digits_ne_nil
      have hmem : digit ∈ word := hshape.split ▸ List.mem_append_right _ hdigit
      rw [Token.ofWord, ofSpelling?_eq_none hmem (hshape.digit digit hdigit)]
      exact if_pos (isCellShaped_iff.mpr ⟨_, _, hshape⟩)
    | name hkeyword hshape =>
      have hnone : Keyword.ofSpelling? (String.ofList (word.map Char.toLower)) = none :=
        Option.eq_none_iff_forall_ne_some.mpr fun k hk => hkeyword k (ofSpelling?_eq_some.mp hk)
      rw [Token.ofWord, hnone]
      exact if_neg fun h => by
        obtain ⟨letters, digits, hsplit⟩ := isCellShaped_iff.mp h
        exact hshape letters digits hsplit
  · rintro rfl
    rw [Token.ofWord]
    split
    · rename_i k hk
      exact .keyword k (ofSpelling?_eq_some.mp hk)
    · rename_i hnone
      split
      · rename_i hshape
        obtain ⟨letters, digits, hsplit⟩ := isCellShaped_iff.mp hshape
        exact .cell hsplit
      · rename_i hshape
        exact .name (fun k hk => by simp [ofSpelling?_eq_some.mpr hk] at hnone)
          fun letters digits hsplit => hshape (isCellShaped_iff.mpr ⟨letters, digits, hsplit⟩)

/-! ### Text literals -/

theorem literalBody?_eq_none (content : List Char) :
    literalBody? (doubleQuotes content) = none := by
  induction content with
  | nil => rfl
  | cons c content ih => by_cases hc : c = '"' <;> simp [doubleQuotes, literalBody?, hc, ih]

/-- A quote that is never closed has only doubled quotes behind it. -/
theorem exists_of_literalBody?_eq_none (h : literalBody? rest = none) :
    ∃ content, rest = doubleQuotes content := by
  fun_induction literalBody? rest with
  | case1 => exact ⟨[], rfl⟩
  | case2 rest ih =>
    obtain ⟨content, rfl⟩ := ih (Option.map_eq_none_iff.mp h)
    exact ⟨'"' :: content, by simp [doubleQuotes]⟩
  | case3 => cases h
  | case4 c rest _ hc ih =>
    obtain ⟨content, rfl⟩ := ih (Option.map_eq_none_iff.mp h)
    exact ⟨c :: content, by simp [doubleQuotes, hc]⟩

/-- A literal ends at the first quote that is not doubled. -/
theorem exists_of_literalBody?_eq_some {body : List Char} (h : literalBody? rest = some body) :
    ∃ content behind, body = doubleQuotes content ∧ rest = body ++ '"' :: behind ∧
      Stops (· == '"') behind := by
  fun_induction literalBody? rest generalizing body with
  | case1 => cases h
  | case2 rest ih =>
    obtain ⟨inner, hinner, rfl⟩ := Option.map_eq_some_iff.mp h
    obtain ⟨content, behind, rfl, rfl, hstop⟩ := ih hinner
    exact ⟨'"' :: content, behind, by simp [doubleQuotes], rfl, hstop⟩
  | case3 rest hsingle =>
    obtain rfl := Option.some.inj h
    refine ⟨[], rest, rfl, rfl, fun next hnext => beq_eq_false_iff_ne.mpr ?_⟩
    rintro rfl
    obtain ⟨tail, rfl⟩ := List.head?_eq_some_iff.mp hnext
    exact hsingle tail rfl rfl
  | case4 c rest _ hc ih =>
    obtain ⟨inner, hinner, rfl⟩ := Option.map_eq_some_iff.mp h
    obtain ⟨content, behind, rfl, rfl, hstop⟩ := ih hinner
    exact ⟨c :: content, behind, by simp [doubleQuotes, hc], rfl, hstop⟩

/-! ### Symbols -/

theorem Symbol.mem_all (s : Symbol) : s ∈ Symbol.all := by cases s <;> decide

/-- The characters that make a longer symbol. -/
theorem Symbol.mem_longer_iff {s : Symbol} : next ∈ s.longer ↔
    ∃ longer : Symbol, longer.spelling.toList = s.spelling.toList ++ [next] := by
  constructor
  · intro h
    have hall : s.longer.all (fun next =>
        Symbol.all.any (·.spelling.toList = s.spelling.toList ++ [next])) = true := by
      cases s <;> decide
    obtain ⟨longer, -, hlonger⟩ := List.any_eq_true.mp (List.all_eq_true.mp hall next h)
    exact ⟨longer, of_decide_eq_true hlonger⟩
  · rintro ⟨longer, h⟩
    have hall : ∀ s ∈ Symbol.all, ∀ longer ∈ Symbol.all,
        longer.spelling.toList.dropLast = s.spelling.toList →
        longer.spelling.toList.getLast?.all s.longer.contains = true := by decide
    have hlast := hall s s.mem_all longer longer.mem_all (by rw [h, List.dropLast_concat])
    rw [h, List.getLast?_concat] at hlast
    exact List.contains_iff_mem.mp hlast

/-- No symbol has more than two characters. -/
theorem Symbol.longer_eq_nil {s longer : Symbol}
    (h : longer.spelling.toList = s.spelling.toList ++ [next]) : longer.longer = [] := by
  have hall : ∀ s ∈ Symbol.all, s.spelling.toList.length = 1 ∨
      s.spelling.toList.length = 2 ∧ s.longer = [] := by decide
  have hlength := congrArg List.length h
  rw [List.length_append, List.length_singleton] at hlength
  obtain hone | ⟨-, hnil⟩ := hall longer longer.mem_all
  · obtain hs | ⟨hs, -⟩ := hall s s.mem_all <;> omega
  · exact hnil

/-- The first character of a symbol is a symbol. -/
theorem Symbol.exists_singleton {s : Symbol} (h : s.spelling.toList = c :: more) :
    ∃ first : Symbol, first.spelling.toList = [c] := by
  have hall : s.spelling.toList.head?.all (fun c =>
      Symbol.all.any (·.spelling.toList = [c])) = true := by cases s <;> decide
  rw [h] at hall
  obtain ⟨first, -, hfirst⟩ := List.any_eq_true.mp hall
  exact ⟨first, of_decide_eq_true hfirst⟩

/-! ### One lexeme -/

theorem stops_of_not_goesOn {p : Char → Bool}
    (h : ∀ next ∈ rest.head?, ¬ p next = true) : Stops p rest :=
  fun next hnext => Bool.eq_false_iff.mpr (h next hnext)

/-- **A lexeme is read as its token,** when the token does not go on behind it. -/
theorem lexeme_of_isLexeme (h : IsLexeme (c :: more) token)
    (hstop : ∀ next ∈ rest.head?, ¬ token.GoesOn next) :
    Formula.lexeme c (more ++ rest) = .ok (token, more) := by
  generalize hchars : c :: more = chars at h
  cases h with
  | number _ hdigits =>
    rw [← hchars] at hdigits
    obtain ⟨hfirst, hmore⟩ := List.forall_mem_cons.mp hdigits
    rw [lexeme_digits hfirst hmore (stops_of_not_goesOn hstop), Text.ofDigitChars_eq_decimal,
      hchars]
  | text content =>
    obtain ⟨rfl, rfl⟩ := List.cons.inj hchars
    exact lexeme_text content (stops_of_not_goesOn fun next hnext he =>
      hstop next hnext (beq_iff_eq.mp he))
  | word hstart hmore hstands =>
    obtain ⟨rfl, rfl⟩ := List.cons.inj hchars
    have hword : Stops isWordChar rest := by
      cases hstands <;> exact stops_of_not_goesOn hstop
    rw [lexeme_word hstart hmore hword, standsFor_iff.mp hstands]
  | symbol s =>
    refine lexeme_symbol hchars.symm (stops_of_not_goesOn fun next hnext hlonger => ?_)
    exact hstop next hnext (Symbol.mem_longer_iff.mp (List.contains_iff_mem.mp hlonger))

/-- **Where no token can be read**: a character begins no lexeme, or a quote is never closed. -/
inductive Stuck : Char → List Char → SyntaxFault → Prop
  | character {c : Char} {rest : List Char} : isSpace c = false →
      (∀ more token, ¬ IsLexeme (c :: more) token) → Stuck c rest (.unexpectedCharacter c)
  | quote (content : List Char) : Stuck '"' (doubleQuotes content) .unterminatedText

theorem stops_dropWhile (p : Char → Bool) (cs : List Char) : Stops p (cs.dropWhile p) := by
  intro next hnext
  have hstop := List.head?_dropWhile_not p cs
  rw [hnext] at hstop
  exact hstop

/-- A run of characters is taken as far as it goes. -/
theorem exists_of_takeWhile (p : Char → Bool) (cs : List Char) :
    ∃ behind, cs = cs.takeWhile p ++ behind ∧ (∀ c ∈ cs.takeWhile p, p c = true) ∧
      ∀ next ∈ behind.head?, ¬ p next = true :=
  ⟨cs.dropWhile p, List.takeWhile_append_dropWhile.symm, fun _ hc => List.mem_takeWhile_imp hc,
    fun next hnext => Bool.eq_false_iff.mp (stops_dropWhile p cs next hnext)⟩

/-- The symbol at the front is the longest one there. -/
theorem isPrefix_of_atFront? {s : Symbol} (h : Symbol.atFront? cs = some s) :
    ∃ behind, cs = s.spelling.toList ++ behind ∧
      ∀ next ∈ behind.head?, ¬ Token.GoesOn (.symbol s) next := by
  have hfound := List.find?_some h
  obtain ⟨behind, rfl⟩ := List.isPrefixOf_iff_prefix.mp hfound
  refine ⟨behind, rfl, ?_⟩
  rintro next hnext ⟨longer, hlonger⟩
  obtain ⟨tail, rfl⟩ := List.head?_eq_some_iff.mp hnext
  -- Nothing goes on with the longer one, so it would have been read.
  have hend : Stops longer.longer.contains tail := fun c _ => by
    rw [Symbol.longer_eq_nil hlonger]
    rfl
  have hfront := atFront?_spelling longer hend
  rw [hlonger, List.append_assoc, List.singleton_append, h] at hfront
  obtain rfl := Option.some.inj hfront
  exact absurd (congrArg List.length hlonger) (by simp)

/-- **What is read is a lexeme,** and its token does not go on behind it. -/
theorem isLexeme_of_lexeme (h : Formula.lexeme c rest = .ok (token, more)) :
    ∃ behind, rest = more ++ behind ∧ IsLexeme (c :: more) token ∧
      ∀ next ∈ behind.head?, ¬ token.GoesOn next := by
  unfold Formula.lexeme at h
  split at h
  · rename_i hdigit
    obtain ⟨rfl, rfl⟩ := Prod.mk.inj (Except.ok.inj h)
    obtain ⟨behind, hsplit, hmore, hstop⟩ := exists_of_takeWhile Char.isDigit rest
    rw [Text.ofDigitChars_eq_decimal]
    exact ⟨behind, hsplit,
      .number (List.cons_ne_nil _ _) (List.forall_mem_cons.mpr ⟨hdigit, hmore⟩), hstop⟩
  · split at h
    · rename_i hquote
      subst hquote
      split at h
      · rename_i body hbody
        obtain ⟨rfl, rfl⟩ := Prod.mk.inj (Except.ok.inj h)
        obtain ⟨content, behind, rfl, rfl, hstop⟩ := exists_of_literalBody?_eq_some hbody
        rw [halveQuotes_doubleQuotes]
        refine ⟨behind, by simp, ?_, fun next hnext he => ?_⟩
        · simpa using IsLexeme.text (String.ofList content)
        · exact Bool.eq_false_iff.mp (hstop next hnext) (beq_iff_eq.mpr he)
      · cases h
    · split at h
      · rename_i hstart
        obtain ⟨rfl, rfl⟩ := Prod.mk.inj (Except.ok.inj h)
        obtain ⟨behind, hsplit, hmore, hstop⟩ := exists_of_takeWhile isWordChar rest
        have hstands : StandsFor (c :: rest.takeWhile isWordChar)
            (Token.ofWord (c :: rest.takeWhile isWordChar)) := standsFor_iff.mpr rfl
        refine ⟨behind, hsplit, .word hstart hmore hstands, ?_⟩
        generalize Token.ofWord _ = token at hstands
        cases hstands <;> exact hstop
      · split at h
        · rename_i s hs
          obtain ⟨rfl, rfl⟩ := Prod.mk.inj (Except.ok.inj h)
          obtain ⟨behind, hsplit, hstop⟩ := isPrefix_of_atFront? hs
          cases hspelling : s.spelling.toList with
          | nil => cases s <;> exact absurd hspelling (by decide)
          | cons first more =>
            rw [hspelling] at hsplit
            obtain ⟨rfl, rfl⟩ := List.cons.inj hsplit
            exact ⟨behind, rfl, hspelling ▸ .symbol s, hstop⟩
        · cases h

theorem stuck_of_lexeme {fault : SyntaxFault} (hspace : isSpace c = false)
    (h : Formula.lexeme c rest = .error fault) : Stuck c rest fault := by
  unfold Formula.lexeme at h
  split at h
  · cases h
  · rename_i hdigit
    split at h
    · rename_i hquote
      subst hquote
      split at h
      · cases h
      · rename_i hbody
        obtain rfl := Except.error.inj h
        obtain ⟨content, rfl⟩ := exists_of_literalBody?_eq_none hbody
        exact .quote content
    · rename_i hquote
      split at h
      · cases h
      · rename_i hstart
        split at h
        · cases h
        · rename_i hnone
          obtain rfl := Except.error.inj h
          refine .character hspace fun more token hlexeme => ?_
          generalize hchars : c :: more = chars at hlexeme
          cases hlexeme with
          | number _ hdigits => exact hdigit (hdigits c (hchars ▸ List.mem_cons_self))
          | text _ => exact hquote (List.cons.inj hchars).1
          | word hword => exact hstart ((List.cons.inj hchars).1 ▸ hword)
          | symbol s =>
            obtain ⟨first, hfirst⟩ := Symbol.exists_singleton hchars.symm
            have hprefix := List.find?_eq_none.mp hnone first first.mem_all
            exact hprefix (by rw [hfirst]; simp [List.isPrefixOf])

theorem lexeme_of_stuck {fault : SyntaxFault} (h : Stuck c rest fault) :
    isSpace c = false ∧ Formula.lexeme c rest = .error fault := by
  cases h with
  | character hspace hnone =>
    refine ⟨hspace, ?_⟩
    cases hlexeme : Formula.lexeme c rest with
    | ok result =>
      obtain ⟨behind, -, hread, -⟩ := isLexeme_of_lexeme hlexeme
      exact absurd hread (hnone _ _)
    | error fault =>
      cases stuck_of_lexeme hspace hlexeme with
      | character _ _ => rfl
      | quote _ => exact absurd (IsLexeme.text "") (hnone _ _)
  | quote content =>
    refine ⟨rfl, ?_⟩
    rw [Formula.lexeme, if_neg (by decide), if_pos rfl, literalBody?_eq_none]

/-! ### Whole texts -/

theorem byteLength_append (cs more : List Char) :
    byteLength (cs ++ more) = byteLength cs + byteLength more := by
  rw [byteLength, String.ofList_append, String.utf8ByteSize_append]
  rfl

theorem byteLength_cons (c : Char) (cs : List Char) :
    byteLength (c :: cs) = c.utf8Size + byteLength cs := by
  rw [← List.singleton_append, byteLength_append, byteLength, ← String.singleton_eq_ofList,
    String.utf8ByteSize_singleton]

theorem byteLength_pos (h : cs ≠ []) : 0 < byteLength cs := by
  obtain ⟨c, more, rfl⟩ := List.exists_cons_of_ne_nil h
  rw [byteLength_cons]
  exact Nat.add_pos_left c.utf8Size_pos _

theorem utf8Size_of_isSpace (h : isSpace c = true) : c.utf8Size = 1 := by
  simp only [isSpace, Bool.or_eq_true, beq_iff_eq] at h
  rcases h with (((rfl | rfl) | rfl) | rfl) | rfl <;> decide

/-- A lexeme begins with a character that is no blank. -/
theorem IsLexeme.exists_cons (h : IsLexeme lexeme token) :
    ∃ c more, lexeme = c :: more ∧ isSpace c = false := by
  cases h with
  | number hne hdigits =>
    obtain ⟨c, more, rfl⟩ := List.exists_cons_of_ne_nil hne
    exact ⟨c, more, rfl,
      isSpace_of_isWordChar (isWordChar_of_isDigit (hdigits c List.mem_cons_self))⟩
  | text _ => exact ⟨_, _, rfl, rfl⟩
  | @word first more _ hstart _ _ =>
    exact ⟨first, more, rfl, isSpace_of_isWordChar (isWordChar_of_isWordStart hstart)⟩
  | symbol s =>
    cases hspelling : s.spelling.toList with
    | nil => cases s <;> exact absurd hspelling (by decide)
    | cons c more => exact ⟨c, more, rfl, (of_mem_head?_spelling (by rw [hspelling]; rfl)).1⟩

/-- **A text cut from the left into lexemes,** with blanks between them, as far as to a position.
Every token comes with the byte where its lexeme begins, and ends where it does not go on. -/
inductive Segments : Nat → List Char → List Placed → Nat → List Char → Prop
  | blanks {offset : Nat} {gap left : List Char} : (∀ c ∈ gap, isSpace c = true) →
      Segments offset (gap ++ left) [] (offset + byteLength gap) left
  | token {offset position : Nat} {gap lexeme rest left : List Char} {token : Token}
      {placed : List Placed} : (∀ c ∈ gap, isSpace c = true) → IsLexeme lexeme token →
      (∀ next ∈ rest.head?, ¬ token.GoesOn next) →
      Segments (offset + byteLength gap + byteLength lexeme) rest placed position left →
      Segments offset (gap ++ (lexeme ++ rest)) (⟨token, offset + byteLength gap⟩ :: placed)
        position left

/-- Nothing is cut off yet. -/
theorem Segments.start (offset : Nat) (cs : List Char) : Segments offset cs [] offset cs :=
  @Segments.blanks offset [] cs nofun

theorem Segments.cons (hlexeme : IsLexeme lexeme token)
    (hstop : ∀ next ∈ rest.head?, ¬ token.GoesOn next)
    (h : Segments (offset + byteLength lexeme) rest placed position left) :
    Segments offset (lexeme ++ rest) (⟨token, offset⟩ :: placed) position left :=
  @Segments.token offset position [] lexeme rest left token placed nofun hlexeme hstop h

theorem Segments.blank (hc : isSpace c = true)
    (h : Segments (offset + 1) cs placed position left) :
    Segments offset (c :: cs) placed position left := by
  have hgap : ∀ gap : List Char, offset + 1 + byteLength gap = offset + byteLength (c :: gap) := by
    intro gap
    rw [byteLength_cons, utf8Size_of_isSpace hc, Nat.add_assoc]
  cases h with
  | @blanks _ gap _ hblank =>
    rw [hgap, ← List.cons_append]
    exact .blanks (List.forall_mem_cons.mpr ⟨hc, hblank⟩)
  | @token _ _ gap _ _ _ _ _ hblank hlexeme hstop hrest =>
    rw [hgap] at hrest ⊢
    rw [← List.cons_append]
    exact .token (List.forall_mem_cons.mpr ⟨hc, hblank⟩) hlexeme hstop hrest

/-- **Every text is cut to its end, or to where no token can be read.** -/
theorem exists_segments (offset : Nat) (read : List Placed) (cs : List Char) :
    ∃ placed position left, Segments offset cs placed position left ∧
      (left = [] ∨ ∃ c rest fault, left = c :: rest ∧ Stuck c rest fault) := by
  induction offset, read, cs using Tokens.scan.induct with
  | case1 offset read => exact ⟨[], offset, [], .start offset [], Or.inl rfl⟩
  | case2 offset read c rest hspace ih =>
    obtain ⟨placed, position, left, hsegments, hend⟩ := ih
    exact ⟨placed, position, left, hsegments.blank hspace, hend⟩
  | case3 offset read c rest hspace token more hlexeme ih =>
    obtain ⟨placed, position, left, hsegments, hend⟩ := ih
    obtain ⟨behind, rfl, hread, hstop⟩ := isLexeme_of_lexeme hlexeme
    rw [List.drop_left] at hsegments
    exact ⟨_, position, left, .cons hread hstop hsegments, hend⟩
  | case4 offset read c rest hspace fault hlexeme =>
    exact ⟨[], offset, c :: rest, .start offset (c :: rest),
      Or.inr ⟨c, rest, fault, rfl, stuck_of_lexeme (Bool.eq_false_iff.mpr hspace) hlexeme⟩⟩

theorem scan_blanks {read : List Placed} (hgap : ∀ c ∈ gap, isSpace c = true) :
    Tokens.scan offset read (gap ++ rest) = Tokens.scan (offset + byteLength gap) read rest := by
  induction gap generalizing offset with
  | nil => rfl
  | cons c gap ih =>
    obtain ⟨hc, hmore⟩ := List.forall_mem_cons.mp hgap
    rw [List.cons_append, Tokens.scan, if_pos hc, ih hmore, byteLength_cons, utf8Size_of_isSpace hc,
      Nat.add_assoc]

/-- **Reading goes through all that is cut off.** -/
theorem Segments.scan (h : Segments offset cs placed position left) : ∀ read : List Placed,
    Tokens.scan offset read cs = Tokens.scan position (placed.reverse ++ read) left := by
  induction h with
  | blanks hgap => exact fun read => scan_blanks hgap
  | token hgap hlexeme hstop _ ih =>
    intro read
    obtain ⟨c, more, rfl, hspace⟩ := hlexeme.exists_cons
    rw [scan_blanks hgap, List.cons_append, Tokens.scan,
      if_neg (by rw [hspace]; exact Bool.false_ne_true), lexeme_of_isLexeme hlexeme hstop]
    simp only [List.drop_left, ih, List.reverse_cons, List.append_assoc, List.singleton_append]

/-- The lexemes begin one behind the other, and in front of the end. -/
theorem Segments.offsets (h : Segments offset cs placed position left) :
    position + byteLength left = offset + byteLength cs ∧
      (∀ entry ∈ placed, offset ≤ entry.offset ∧ entry.offset < position) ∧
      offset ≤ position ∧ (placed.map (·.offset)).Pairwise (· < ·) := by
  induction h with
  | blanks _ =>
    rw [byteLength_append, Nat.add_assoc]
    exact ⟨rfl, nofun, Nat.le_add_right _ _, .nil⟩
  | @token offset position gap lexeme rest left token placed _ hlexeme _ _ ih =>
    obtain ⟨hlength, hentries, hle, hincreasing⟩ := ih
    have hpos : 0 < byteLength lexeme := by
      obtain ⟨c, more, rfl, -⟩ := hlexeme.exists_cons
      exact byteLength_pos (List.cons_ne_nil c more)
    refine ⟨?_, List.forall_mem_cons.mpr ⟨⟨Nat.le_add_right _ _, ?_⟩, fun entry hentry => ?_⟩,
      ?_, ?_⟩
    · rw [hlength, byteLength_append, byteLength_append]
      omega
    · show offset + byteLength gap < position
      omega
    · obtain ⟨hlower, hupper⟩ := hentries entry hentry
      exact ⟨by omega, hupper⟩
    · omega
    · rw [List.map_cons, List.pairwise_cons]
      refine ⟨fun other hother => ?_, hincreasing⟩
      obtain ⟨entry, hentry, rfl⟩ := List.mem_map.mp hother
      obtain ⟨hlower, -⟩ := hentries entry hentry
      show offset + byteLength gap < entry.offset
      omega

/-- Every token is written where it begins, and does not go on behind its lexeme. -/
theorem Segments.written (h : Segments offset cs placed position left) : ∀ entry ∈ placed,
    ∃ front lexeme back, cs = front ++ (lexeme ++ back) ∧
      entry.offset = offset + byteLength front ∧ IsLexeme lexeme entry.token ∧
      ∀ next ∈ back.head?, ¬ entry.token.GoesOn next := by
  induction h with
  | blanks _ => nofun
  | @token offset position gap lexeme rest left token placed _ hlexeme hstop _ ih =>
    refine List.forall_mem_cons.mpr ⟨⟨gap, lexeme, rest, rfl, rfl, hlexeme, hstop⟩, ?_⟩
    intro entry hentry
    obtain ⟨front, inner, back, hsplit, hoffset, hinner, hend⟩ := ih entry hentry
    refine ⟨gap ++ (lexeme ++ front), inner, back, by simp [hsplit], ?_, hinner, hend⟩
    rw [hoffset, byteLength_append, byteLength_append]
    omega

theorem Segments.tokenize {text : String} (h : Segments 0 text.toList placed position []) :
    Formula.tokenize text = .ok ⟨placed, position⟩ := by
  rw [Formula.tokenize, h.scan, Tokens.scan, List.append_nil, List.reverse_reverse]

theorem Segments.tokenize_of_stuck {text : String} {fault : SyntaxFault}
    (h : Segments 0 text.toList placed position (c :: rest)) (hstuck : Stuck c rest fault) :
    Formula.tokenize text = .error (.malformed position fault) := by
  obtain ⟨hspace, hlexeme⟩ := lexeme_of_stuck hstuck
  rw [Formula.tokenize, h.scan, Tokens.scan, if_neg (by rw [hspace]; exact Bool.false_ne_true),
    hlexeme]

theorem segments_of_tokenize {text : String} {tokens : Tokens}
    (h : Formula.tokenize text = .ok tokens) :
    Segments 0 text.toList tokens.ahead tokens.finish [] := by
  obtain ⟨placed, position, left, hsegments, rfl | ⟨c, rest, fault, rfl, hstuck⟩⟩ :=
    exists_segments 0 [] text.toList
  · obtain rfl := Except.ok.inj (hsegments.tokenize.symm.trans h)
    exact hsegments
  · cases (hsegments.tokenize_of_stuck hstuck).symm.trans h

/-! ### Longest lexemes -/

theorem IsLexeme.alone (h : IsLexeme (c :: more) token) :
    Formula.lexeme c more = .ok (token, more) := by
  have hread : Formula.lexeme c (more ++ []) = .ok (token, more) := lexeme_of_isLexeme h nofun
  rwa [List.append_nil] at hread

theorem IsLexeme.unique {other : Token} (h : IsLexeme lexeme token)
    (hother : IsLexeme lexeme other) : other = token := by
  obtain ⟨c, more, rfl, -⟩ := h.exists_cons
  have hread := h.alone
  rw [hother.alone] at hread
  exact (Prod.mk.inj (Except.ok.inj hread)).1

/-- **A lexeme that is the beginning of a longer one goes on,** whatever the longer one is. -/
theorem IsLexeme.goesOn {other : Token} (h : IsLexeme lexeme token)
    (hother : IsLexeme (lexeme ++ next :: more) other) : token.GoesOn next := by
  by_contra hstop
  obtain ⟨c, tail, rfl, -⟩ := h.exists_cons
  have hshort : Formula.lexeme c (tail ++ next :: more) = .ok (token, tail) :=
    lexeme_of_isLexeme h fun d hd => Option.some.inj (Option.mem_def.mp hd) ▸ hstop
  rw [List.cons_append] at hother
  have hlong := hother.alone
  rw [hshort] at hlong
  obtain ⟨-, htail⟩ := Prod.mk.inj (Except.ok.inj hlong)
  exact absurd (congrArg List.length htail) (by simp)

/-- **Reading tokens is the one way to cut a text into longest lexemes.**  It succeeds with what the
text is cut into to its end, and there is at most one such cut.  It fails at the byte where the text
cannot be cut further.  The tokens begin at rising bytes of the text, and the last position is the
end of what was cut off.  A lexeme has one token, and a lexeme with a longer one at the same place
is never taken. -/
theorem tokenize_exact (text : String) :
    (∀ tokens, tokenize text = .ok tokens ↔
      Segments 0 text.toList tokens.ahead tokens.finish []) ∧
    (∀ first second : Tokens, Segments 0 text.toList first.ahead first.finish [] →
      Segments 0 text.toList second.ahead second.finish [] → first = second) ∧
    (∀ error, tokenize text = .error error ↔ ∃ placed position c rest fault,
      Segments 0 text.toList placed position (c :: rest) ∧ Stuck c rest fault ∧
      error = .malformed position fault) ∧
    (∀ placed position left, Segments 0 text.toList placed position left →
      (placed.map (·.offset)).Pairwise (· < ·) ∧ (∀ entry ∈ placed, entry.offset < position) ∧
      position + byteLength left = text.utf8ByteSize) ∧
    ∀ lexeme token, IsLexeme lexeme token →
      (∀ other, IsLexeme lexeme other → other = token) ∧
      ∀ next more other, IsLexeme (lexeme ++ next :: more) other → token.GoesOn next := by
  obtain ⟨placed, position, left, hsegments, hend⟩ := exists_segments 0 [] text.toList
  have hread : ∀ tokens : Tokens, Segments 0 text.toList tokens.ahead tokens.finish [] →
      tokenize text = .ok tokens := fun _ => Segments.tokenize
  refine ⟨fun tokens => ⟨fun h => ?_, hread tokens⟩, fun first second hfirst hsecond => ?_,
    fun error => ⟨fun h => ?_, ?_⟩, fun placed position left h => ?_, fun lexeme token h => ?_⟩
  · obtain rfl | ⟨c, rest, fault, rfl, hstuck⟩ := hend
    · obtain rfl := Except.ok.inj (hsegments.tokenize.symm.trans h)
      exact hsegments
    · cases (hsegments.tokenize_of_stuck hstuck).symm.trans h
  · exact Except.ok.inj ((hread first hfirst).symm.trans (hread second hsecond))
  · obtain rfl | ⟨c, rest, fault, rfl, hstuck⟩ := hend
    · cases hsegments.tokenize.symm.trans h
    · exact ⟨placed, position, c, rest, fault, hsegments, hstuck,
        (Except.error.inj ((hsegments.tokenize_of_stuck hstuck).symm.trans h)).symm⟩
  · rintro ⟨placed, position, c, rest, fault, h, hstuck, rfl⟩
    exact h.tokenize_of_stuck hstuck
  · obtain ⟨hlength, hentries, -, hincreasing⟩ := h.offsets
    refine ⟨hincreasing, fun entry hentry => (hentries entry hentry).2, ?_⟩
    rw [hlength, Nat.zero_add, byteLength, String.ofList_toList]
  · exact ⟨fun _ => h.unique, fun _ _ _ => h.goesOn⟩

/-- A name, a cell in small letters, a text with a quote and a character of two bytes in it, and a
symbol of two characters. -/
def mixedText : String := "Max( a1,\"é\"\"\")<>-2"

/-- The tokens of this text begin at rising bytes. -/
theorem mixedText_segments :
    Segments 0 mixedText.toList [⟨.name "Max", 0⟩, ⟨.symbol .openParen, 3⟩, ⟨.cell "A1", 5⟩,
        ⟨.symbol .comma, 7⟩, ⟨.text "é\"", 8⟩, ⟨.symbol .closeParen, 14⟩, ⟨.symbol .notEqual, 15⟩,
        ⟨.symbol .minus, 17⟩, ⟨.number 2, 18⟩] 19 [] ∧
      19 + byteLength [] = mixedText.utf8ByteSize := by
  obtain ⟨hread, -, -, hoffsets, -⟩ := tokenize_exact mixedText
  have htokens : tokenize mixedText = .ok ⟨[⟨.name "Max", 0⟩, ⟨.symbol .openParen, 3⟩,
      ⟨.cell "A1", 5⟩, ⟨.symbol .comma, 7⟩, ⟨.text "é\"", 8⟩, ⟨.symbol .closeParen, 14⟩,
      ⟨.symbol .notEqual, 15⟩, ⟨.symbol .minus, 17⟩, ⟨.number 2, 18⟩], 19⟩ := by decide +kernel
  have hsegments := (hread _).mp htokens
  obtain ⟨-, -, hfinish⟩ := hoffsets _ _ _ hsegments
  exact ⟨hsegments, hfinish⟩

end Gridcalc.Formula
