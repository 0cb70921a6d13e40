import Gridcalc.Proofs.Formula.Segmentation

/-! # Letters in another case

Two texts are `Recased` when they differ in the case of letters only, and not inside a literal.
They are then cut into lexemes at the same bytes, since it does not depend on the case of a letter
where a lexeme ends (`Segments.recased`).

The tokens are not the same.  Keywords are known in any case and cells come in capitals, but a name
stands as it was written.  So the tokens are equal only after names are put into small letters
(`Tokens.Alike`).  The result for whole texts is `tokenize_recased`: the tokens are equal in this
sense, or both texts are refused at the same byte.
-/
namespace Gridcalc.Formula
variable {c d : Char} {cs ds front rest lexeme other left : List Char} {token : Token}

/-! ### Letters -/

theorem toLower_of_isAlpha_eq_false (h : c.isAlpha = false) : c.toLower = c :=
  Char.toLower_eq_of_not_isUpper (Bool.eq_false_iff.mp (Bool.or_eq_false_iff.mp h).1)

/-- **What is the same for all letters does not depend on their case.** -/
theorem apply_toLower {β : Type} {f : Char → β} {b : β} (hf : ∀ c, c.isAlpha = true → f c = b)
    (c : Char) : f c.toLower = f c := by
  cases h : c.isAlpha with
  | true => rw [hf c h, hf _ ((Char.isAlpha_toLower_eq_isAlpha c).trans h)]
  | false => rw [toLower_of_isAlpha_eq_false h]

theorem isDigit_toLower : ∀ c : Char, c.toLower.isDigit = c.isDigit :=
  apply_toLower (b := false) fun _ h => Bool.eq_false_iff.mpr fun hdigit =>
    Bool.false_ne_true ((CellRef.isAlpha_eq_false_of_isDigit hdigit).symm.trans h)

theorem isWordStart_toLower : ∀ c : Char, isWordStart c.toLower = isWordStart c :=
  apply_toLower (b := true) fun c h => by rw [isWordStart, h, Bool.true_or]

theorem isWordChar_toLower : ∀ c : Char, isWordChar c.toLower = isWordChar c :=
  apply_toLower (b := true) fun _ => isWordChar_of_isAlpha

theorem isSpace_toLower : ∀ c : Char, isSpace c.toLower = isSpace c :=
  apply_toLower (b := false) fun _ h => isSpace_of_isWordChar (isWordChar_of_isAlpha h)

theorem utf8Size_toLower : ∀ c : Char, c.toLower.utf8Size = c.utf8Size :=
  apply_toLower (b := 1) fun c h => by
    have hletters : ∀ digit : Fin 26, (Address.capital digit).utf8Size = 1 ∧
        (Char.ofNat ('a'.toNat + digit)).utf8Size = 1 := by decide
    obtain ⟨digit, rfl | rfl⟩ := Address.letter_cases h
    · exact (hletters digit).1
    · exact (hletters digit).2

/-- A character that is no letter has no other case. -/
theorem eq_of_toLower_eq (h : c.toLower = d.toLower) (hc : c.isAlpha = false) : d = c := by
  have hd : d.isAlpha = false := by
    rw [← Char.isAlpha_toLower_eq_isAlpha, ← h, Char.isAlpha_toLower_eq_isAlpha, hc]
  rw [← toLower_of_isAlpha_eq_false hd, ← h, toLower_of_isAlpha_eq_false hc]

theorem eq_of_map_toLower_eq (h : cs.map Char.toLower = ds.map Char.toLower)
    (hcs : ∀ c ∈ cs, c.isAlpha = false) : ds = cs := by
  induction cs generalizing ds with
  | nil => exact List.map_eq_nil_iff.mp h.symm
  | cons c cs ih =>
    obtain ⟨d, ds, rfl, hd, hds⟩ := List.map_eq_cons_iff.mp h.symm
    obtain ⟨hc, hcs⟩ := List.forall_mem_cons.mp hcs
    rw [eq_of_toLower_eq hd.symm hc, ih hds.symm hcs]

theorem byteLength_map_toLower (cs : List Char) :
    byteLength (cs.map Char.toLower) = byteLength cs := by
  induction cs with
  | nil => rfl
  | cons c cs ih => rw [List.map_cons, byteLength_cons, byteLength_cons, ih, utf8Size_toLower]

/-- A property of all characters that does not depend on their case. -/
theorem forall_of_map_toLower_eq {p : Char → Bool} (hp : ∀ c, p c.toLower = p c)
    (h : cs.map Char.toLower = ds.map Char.toLower) (hcs : ∀ c ∈ cs, p c = true) :
    ∀ d ∈ ds, p d = true := by
  intro d hd
  have hmem : d.toLower ∈ cs.map Char.toLower := h ▸ List.mem_map_of_mem hd
  obtain ⟨c, hc, hlower⟩ := List.mem_map.mp hmem
  rw [← hp d, ← hlower, hp c, hcs c hc]

/-! ### Texts -/

/-- **Two texts that differ in the case of letters only,** and not in a literal. -/
inductive Recased : List Char → List Char → Prop
  | nil : Recased [] []
  /-- Outside of literals, a letter stands in either case. -/
  | char {c d : Char} {cs ds : List Char} : c ≠ '"' → c.toLower = d.toLower → Recased cs ds →
      Recased (c :: cs) (d :: ds)
  /-- A literal is the same in both texts.  It ends at the first quote that is not doubled. -/
  | literal (content : List Char) {cs ds : List Char} : cs.head? ≠ some '"' → Recased cs ds →
      Recased ('"' :: (doubleQuotes content ++ '"' :: cs))
        ('"' :: (doubleQuotes content ++ '"' :: ds))
  /-- A quote that is never closed begins no literal. -/
  | unclosed {content other : List Char} : content.map Char.toLower = other.map Char.toLower →
      Recased ('"' :: doubleQuotes content) ('"' :: doubleQuotes other)

theorem literalBody?_of_head? (hstop : rest.head? ≠ some '"') (content : List Char) :
    literalBody? (doubleQuotes content ++ '"' :: rest) = some (doubleQuotes content) :=
  literalBody?_doubleQuotes (stops_of_not_goesOn fun _ hnext he =>
    hstop (hnext.trans (congrArg some (beq_iff_eq.mp he)))) content

namespace Recased

/-- Every text is cut into literals and what stands outside of them. -/
theorem refl (cs : List Char) : Recased cs cs := by
  induction hlength : cs.length using Nat.strong_induction_on generalizing cs with
  | h length ih =>
    subst hlength
    cases cs with
    | nil => exact .nil
    | cons c rest =>
      by_cases hc : c = '"'
      · subst hc
        cases hbody : literalBody? rest with
        | none =>
          obtain ⟨content, rfl⟩ := exists_of_literalBody?_eq_none hbody
          exact .unclosed rfl
        | some body =>
          obtain ⟨content, behind, rfl, rfl, hstop⟩ := exists_of_literalBody?_eq_some hbody
          refine .literal content (fun hhead => ?_) (ih _ (by simp; omega) behind rfl)
          exact Bool.false_ne_true ((hstop _ hhead).symm.trans (beq_self_eq_true _))
      · exact .char hc rfl (ih _ (Nat.lt_succ_self _) rest rfl)

theorem cons (h : Recased (c :: cs) ds) :
    ∃ d tail, ds = d :: tail ∧ c.toLower = d.toLower ∧ (c ≠ '"' → Recased cs tail) := by
  cases h with
  | char _ hlower hrest => exact ⟨_, _, rfl, hlower, fun _ => hrest⟩
  | literal content hstop hrest => exact ⟨_, _, rfl, rfl, fun h => absurd rfl h⟩
  | unclosed hcontent => exact ⟨_, _, rfl, rfl, fun h => absurd rfl h⟩

/-- The next characters differ in case only. -/
theorem exists_of_mem_head? (h : Recased cs ds) (hd : d ∈ ds.head?) :
    ∃ c ∈ cs.head?, c.toLower = d.toLower := by
  cases h with
  | nil => cases hd
  | char _ hlower _ => exact ⟨_, rfl, hlower.trans (congrArg _ (Option.some.inj hd))⟩
  | literal _ _ _ | unclosed _ => exact ⟨'"', rfl, congrArg _ (Option.some.inj hd)⟩

theorem symm (h : Recased cs ds) : Recased ds cs := by
  induction h with
  | nil => exact .nil
  | char hc hlower _ ih =>
    refine .char ?_ hlower.symm ih
    rintro rfl
    exact hc (eq_of_toLower_eq hlower.symm (by decide))
  | literal content hstop hrest ih =>
    refine .literal content (fun hhead => ?_) ih
    obtain ⟨c, hc, hlower⟩ := hrest.exists_of_mem_head? hhead
    obtain rfl := eq_of_toLower_eq hlower.symm (by decide)
    exact hstop hc
  | unclosed hcontent => exact .unclosed hcontent.symm

/-- Outside of literals, the texts can be cut at the same place. -/
theorem split (h : Recased (front ++ rest) ds) (hfront : '"' ∉ front) :
    ∃ front' rest', ds = front' ++ rest' ∧ front.map Char.toLower = front'.map Char.toLower ∧
      Recased rest rest' := by
  induction front generalizing ds with
  | nil => exact ⟨[], ds, rfl, rfl, h⟩
  | cons c front ih =>
    obtain ⟨hc, hfront⟩ := not_or.mp (mt List.mem_cons.mpr hfront)
    obtain ⟨d, tail, rfl, hlower, hrest⟩ := h.cons
    obtain ⟨front', rest', rfl, hmap, hrest⟩ := ih (hrest (Ne.symm hc)) hfront
    exact ⟨d :: front', rest', rfl, by rw [List.map_cons, hlower, hmap, List.map_cons], hrest⟩

/-- Outside of literals, texts can be put in front that differ in case. -/
theorem append {front' rest' : List Char} (hfront : '"' ∉ front)
    (hmap : front.map Char.toLower = front'.map Char.toLower) (h : Recased rest rest') :
    Recased (front ++ rest) (front' ++ rest') := by
  induction front generalizing front' with
  | nil =>
    obtain rfl := List.map_eq_nil_iff.mp hmap.symm
    exact h
  | cons c front ih =>
    obtain ⟨d, tail, rfl, hlower, htail⟩ := List.map_eq_cons_iff.mp hmap.symm
    obtain ⟨hc, hfront⟩ := not_or.mp (mt List.mem_cons.mpr hfront)
    exact .char (Ne.symm hc) hlower.symm (ih hfront htail.symm)

/-- A literal stands in the other text as it is. -/
theorem split_literal {content : List Char} (hstop : rest.head? ≠ some '"')
    (h : Recased ('"' :: (doubleQuotes content ++ '"' :: rest)) ds) :
    ∃ rest', ds = '"' :: (doubleQuotes content ++ '"' :: rest') ∧ Recased rest rest' := by
  generalize htail : doubleQuotes content ++ '"' :: rest = tail at h
  cases h with
  | char hc _ _ => exact absurd rfl hc
  | literal found hfound hrest =>
    have hfirst := literalBody?_of_head? hstop content
    rw [htail, literalBody?_of_head? hfound found] at hfirst
    have hcontent := Option.some.inj hfirst
    rw [hcontent] at htail ⊢
    obtain ⟨-, rfl⟩ := List.cons.inj (List.append_cancel_left htail)
    exact ⟨_, rfl, hrest⟩
  | unclosed _ =>
    have hfirst := literalBody?_of_head? hstop content
    rw [htail, literalBody?_eq_none] at hfirst
    cases hfirst

/-- A quote that is never closed is not closed in the other text either. -/
theorem exists_of_unclosed {content : List Char} (h : Recased ('"' :: doubleQuotes content) ds) :
    ∃ other, ds = '"' :: doubleQuotes other := by
  generalize htail : doubleQuotes content = tail at h
  cases h with
  | char hc _ _ => exact absurd rfl hc
  | literal found hfound _ =>
    have hfirst := literalBody?_eq_none content
    rw [htail, literalBody?_of_head? hfound found] at hfirst
    cases hfirst
  | unclosed _ => exact ⟨_, rfl⟩

end Recased

/-! ### Tokens -/

/-- A word in small letters. -/
def lowerWord (word : String) : String := String.ofList (word.toList.map Char.toLower)

/-- A token with a name in small letters. -/
def Token.lower : Token → Token
  | .name word => .name (lowerWord word)
  | token => token

/-- A token with a name in small letters, at its place. -/
def Placed.lower (entry : Placed) : Placed := { entry with token := entry.token.lower }

/-- Tokens with names in small letters. -/
def Tokens.lower (tokens : Tokens) : Tokens :=
  { tokens with ahead := tokens.ahead.map Placed.lower }

/-- **The tokens are equal but for the case of names.** -/
def Tokens.Alike (tokens other : Tokens) : Prop := tokens.lower = other.lower

theorem isCellShaped_map_toLower (word : List Char) :
    isCellShaped (word.map Char.toLower) = isCellShaped word := by
  simp [isCellShaped, List.takeWhile_map, List.dropWhile_map, Function.comp_def, isDigit_toLower]

/-- The token of a word in small letters. -/
theorem lower_ofWord (word : List Char) :
    (Token.ofWord word).lower = Token.ofWord (word.map Char.toLower) := by
  have hlower : Char.toLower ∘ Char.toLower = Char.toLower :=
    funext Char.toLower_toLower_eq_toLower
  have hupper : Char.toUpper ∘ Char.toLower = Char.toUpper :=
    funext Char.toUpper_toLower_eq_toUpper
  rw [Token.ofWord, Token.ofWord, isCellShaped_map_toLower, List.map_map, List.map_map, hlower,
    hupper]
  split
  · rfl
  · split
    · rfl
    · rw [Token.lower, lowerWord, String.toList_ofList]

theorem goesOn_lower {next : Char} : token.lower.GoesOn next ↔ token.GoesOn next := by
  cases token <;> rfl

/-- No symbol has a letter in it. -/
theorem isAlpha_of_mem_spelling {s : Symbol} (hc : c ∈ s.spelling.toList) : c.isAlpha = false := by
  have hall : s.spelling.toList.all (!·.isAlpha) = true := by cases s <;> decide
  exact (Bool.not_eq_true' _).mp (List.all_eq_true.mp hall c hc)

theorem Token.GoesOn.recased (h : token.GoesOn c) (hlower : c.toLower = d.toLower) :
    token.GoesOn d := by
  have hblind : ∀ {p : Char → Bool}, (∀ c, p c.toLower = p c) → p c = true → p d = true :=
    fun hp hc => by rw [← hp d, ← hlower, hp c, hc]
  cases token with
  | number _ => exact hblind isDigit_toLower h
  | text _ =>
    rw [Token.GoesOn] at h ⊢
    exact (eq_of_toLower_eq hlower (by rw [h]; decide)).trans h
  | cell _ | name _ | keyword _ => exact hblind isWordChar_toLower h
  | symbol s =>
    obtain ⟨longer, hlonger⟩ := h
    have hc : c ∈ longer.spelling.toList := by
      rw [hlonger]
      exact List.mem_append_right _ List.mem_cons_self
    rw [eq_of_toLower_eq hlower (isAlpha_of_mem_spelling hc)]
    exact ⟨longer, hlonger⟩

/-- **A lexeme in another case is a lexeme.**  It stands for the same token, or for a name in
another case. -/
theorem IsLexeme.recased (h : IsLexeme lexeme token) (hquote : '"' ∉ lexeme)
    (hmap : lexeme.map Char.toLower = other.map Char.toLower) :
    ∃ token', IsLexeme other token' ∧ token.lower = token'.lower := by
  cases h with
  | number hne hdigits =>
    rw [eq_of_map_toLower_eq hmap fun c hc => CellRef.isAlpha_eq_false_of_isDigit (hdigits c hc)]
    exact ⟨_, .number hne hdigits, rfl⟩
  | text _ => exact absurd List.mem_cons_self hquote
  | @word first more _ hstart hmore hstands =>
    obtain ⟨first', more', rfl, hfirst, hrest⟩ := List.map_eq_cons_iff.mp hmap.symm
    have hstart' : isWordStart first' = true := by
      rw [← isWordStart_toLower, hfirst, isWordStart_toLower, hstart]
    have hmore' := forall_of_map_toLower_eq isWordChar_toLower hrest.symm hmore
    refine ⟨_, .word hstart' hmore' (standsFor_iff.mpr rfl), ?_⟩
    rw [← standsFor_iff.mp hstands, lower_ofWord, lower_ofWord, hmap]
  | symbol s =>
    rw [eq_of_map_toLower_eq hmap fun c => isAlpha_of_mem_spelling]
    exact ⟨_, .symbol s, rfl⟩

/-- A lexeme is a literal, or has no quote in it. -/
theorem IsLexeme.quote_cases (h : IsLexeme lexeme token) :
    (∃ content : String, lexeme = '"' :: (doubleQuotes content.toList ++ ['"']) ∧
      token = .text content) ∨ '"' ∉ lexeme := by
  have hword : ∀ {cs : List Char}, (∀ c ∈ cs, isWordChar c = true) → '"' ∉ cs := fun hcs hmem =>
    absurd (hcs _ hmem) (by decide)
  cases h with
  | number _ hdigits => exact Or.inr (hword fun c hc => isWordChar_of_isDigit (hdigits c hc))
  | text content => exact Or.inl ⟨content, rfl, rfl⟩
  | word hstart hmore _ =>
    exact Or.inr (hword (List.forall_mem_cons.mpr ⟨isWordChar_of_isWordStart hstart, hmore⟩))
  | symbol s => exact Or.inr (by cases s <;> decide)

theorem Stuck.recased {fault : SyntaxFault} (hstuck : Stuck c rest fault)
    (h : Recased (c :: rest) ds) : ∃ d rest' fault', ds = d :: rest' ∧ Stuck d rest' fault' := by
  cases hstuck with
  | character hspace hnone =>
    obtain ⟨d, tail, rfl, hlower, -⟩ := h.cons
    refine ⟨d, tail, _, rfl, .character ?_ fun more token hlexeme => ?_⟩
    · rw [← isSpace_toLower, ← hlower, isSpace_toLower, hspace]
    · obtain hquote | hplain := hlexeme.quote_cases
      · obtain ⟨_, hchars, -⟩ := hquote
        rw [(List.cons.inj hchars).1] at hlower
        obtain rfl := eq_of_toLower_eq hlower.symm (by decide)
        exact hnone _ _ (.text "")
      · have hmap : (d :: more).map Char.toLower = (c :: more).map Char.toLower := by
          rw [List.map_cons, List.map_cons, hlower]
        obtain ⟨token', hread, -⟩ := hlexeme.recased hplain hmap
        exact hnone _ _ hread
  | quote content =>
    obtain ⟨other, rfl⟩ := h.exists_of_unclosed
    exact ⟨'"', _, _, rfl, .quote other⟩

/-! ### Cutting -/

theorem byteLength_of_map_toLower_eq (h : cs.map Char.toLower = ds.map Char.toLower) :
    byteLength ds = byteLength cs := by
  rw [← byteLength_map_toLower, ← h, byteLength_map_toLower]

/-- Blanks are the same in both texts. -/
theorem Recased.split_blanks {gap : List Char} (h : Recased (gap ++ rest) ds)
    (hgap : ∀ c ∈ gap, isSpace c = true) : ∃ rest', ds = gap ++ rest' ∧ Recased rest rest' := by
  have hplain : ∀ c ∈ gap, c.isAlpha = false := fun c hc => Bool.eq_false_iff.mpr fun halpha =>
    absurd (hgap c hc) (by rw [isSpace_of_isWordChar (isWordChar_of_isAlpha halpha)]; decide)
  obtain ⟨gap', rest', rfl, hmap, hrest⟩ := h.split fun hmem => absurd (hgap _ hmem) (by decide)
  rw [eq_of_map_toLower_eq hmap hplain]
  exact ⟨rest', rfl, hrest⟩

/-- **The next lexeme has the same length in both texts,** and stands for the same token, or for a
name in another case. -/
theorem Recased.split_lexeme (h : Recased (lexeme ++ rest) ds) (hlexeme : IsLexeme lexeme token)
    (hstop : ∀ next ∈ rest.head?, ¬ token.GoesOn next) :
    ∃ lexeme' rest' token', ds = lexeme' ++ rest' ∧ byteLength lexeme' = byteLength lexeme ∧
      IsLexeme lexeme' token' ∧ token.lower = token'.lower ∧
      (∀ next ∈ rest'.head?, ¬ token'.GoesOn next) ∧ Recased rest rest' := by
  have hstops : ∀ {rest' : List Char} {token' : Token}, Recased rest rest' →
      token.lower = token'.lower → ∀ next ∈ rest'.head?, ¬ token'.GoesOn next := by
    intro rest' token' hrest htoken next hnext hon
    obtain ⟨c, hc, hlower⟩ := hrest.exists_of_mem_head? hnext
    rw [← goesOn_lower, ← htoken, goesOn_lower] at hon
    exact hstop c hc (hon.recased hlower.symm)
  obtain ⟨content, rfl, rfl⟩ | hquote := hlexeme.quote_cases
  · have hfirst : rest.head? ≠ some '"' := fun hhead => hstop '"' hhead rfl
    rw [List.cons_append, List.append_assoc, List.singleton_append] at h
    obtain ⟨rest', rfl, hrest⟩ := h.split_literal hfirst
    exact ⟨_, rest', _, by simp, rfl, hlexeme, rfl, hstops hrest rfl, hrest⟩
  · obtain ⟨lexeme', rest', rfl, hmap, hrest⟩ := h.split hquote
    obtain ⟨token', hlexeme', htoken⟩ := hlexeme.recased hquote hmap
    exact ⟨lexeme', rest', token', rfl, byteLength_of_map_toLower_eq hmap, hlexeme', htoken,
      hstops hrest htoken, hrest⟩

/-- **Two recased texts are cut at the same bytes,** as far as to the same position. -/
theorem Segments.recased {offset position : Nat} {placed : List Placed}
    (h : Segments offset cs placed position left) (hrecased : Recased cs ds) :
    ∃ placed' left', Segments offset ds placed' position left' ∧
      placed.map Placed.lower = placed'.map Placed.lower ∧ Recased left left' := by
  induction h generalizing ds with
  | blanks hgap =>
    obtain ⟨left', rfl, hleft⟩ := hrecased.split_blanks hgap
    exact ⟨[], left', .blanks hgap, rfl, hleft⟩
  | @token offset position gap lexeme rest left token placed hgap hlexeme hstop _ ih =>
    obtain ⟨tail, rfl, htail⟩ := hrecased.split_blanks hgap
    obtain ⟨lexeme', rest', token', rfl, hlength, hlexeme', htoken, hstop', hrest⟩ :=
      htail.split_lexeme hlexeme hstop
    obtain ⟨placed', left', hsegments, hplaced, hleft⟩ := ih hrest
    rw [← hlength] at hsegments
    refine ⟨_, left', .token hgap hlexeme' hstop' hsegments, ?_, hleft⟩
    simp only [List.map_cons, Placed.lower, htoken]
    exact congrArg _ hplaced

/-! ### Whole texts -/

/-- **Two answers agree**: the results are alike in a certain sense, or both texts are refused at
the same place, for whatever reasons. -/
inductive Agree {α : Type} (alike : α → α → Prop) :
    Except FormulaError α → Except FormulaError α → Prop
  | ok {result other : α} : alike result other → Agree alike (.ok result) (.ok other)
  | malformed (position : Nat) (fault other : SyntaxFault) :
      Agree alike (.error (.malformed position fault)) (.error (.malformed position other))

/-- **The tokens of two recased texts agree** but for the case of names. -/
theorem tokenize_recased {text other : String} (h : Recased text.toList other.toList) :
    Agree Tokens.Alike (tokenize text) (tokenize other) := by
  obtain ⟨placed, position, left, hsegments, hend⟩ := exists_segments 0 [] text.toList
  obtain ⟨placed', left', hsegments', hplaced, hleft⟩ := hsegments.recased h
  obtain rfl | ⟨c, rest, fault, rfl, hstuck⟩ := hend
  · cases hleft
    rw [hsegments.tokenize, hsegments'.tokenize]
    exact .ok (by rw [Tokens.Alike, Tokens.lower, Tokens.lower, hplaced])
  · obtain ⟨d, rest', fault', rfl, hstuck'⟩ := hstuck.recased hleft
    rw [hsegments.tokenize_of_stuck hstuck, hsegments'.tokenize_of_stuck hstuck']
    exact .malformed position fault fault'

end Gridcalc.Formula
