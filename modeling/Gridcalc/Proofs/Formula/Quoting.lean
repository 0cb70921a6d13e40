import Gridcalc.Formula.Expr.Printer
import Gridcalc.Proofs.Formula.References
import Gridcalc.Proofs.Formula.Segmentation

/-! # Texts between quotes

A text becomes a literal of a formula when its quotes are doubled and the result is put between
quotes (`quoteLiteral`).  Whatever stands behind the literal is cut into tokens as it would be
alone, with all positions moved by the length of the literal (`Segments.moved`), as long as it does
not begin with a quote, which would belong to the literal.  So a literal is one token, however much
its text looks like a formula, and as a formula of its own it has that text as its value.
-/
namespace Gridcalc.Formula
variable {offset position bytes : Nat} {cs left : List Char} {placed : List Placed}

/-- A token in a text that has so many bytes more in front. -/
def Placed.moved (bytes : Nat) (entry : Placed) : Placed :=
  { entry with offset := entry.offset + bytes }

/-- **Where a text stands does not matter for how it is cut.** -/
theorem Segments.moved (bytes : Nat) (h : Segments offset cs placed position left) :
    Segments (offset + bytes) cs (placed.map (·.moved bytes)) (position + bytes) left := by
  induction h with
  | @blanks offset gap left hgap =>
    rw [Nat.add_right_comm]
    exact .blanks hgap
  | @token offset position gap lexeme rest left token placed hgap hlexeme hstop _ ih =>
    have hbegin : offset + byteLength gap + bytes = offset + bytes + byteLength gap :=
      Nat.add_right_comm _ _ _
    have hend : offset + byteLength gap + byteLength lexeme + bytes =
        offset + bytes + byteLength gap + byteLength lexeme := by omega
    rw [hend] at ih
    rw [List.map_cons, Placed.moved, hbegin]
    exact .token hgap hlexeme hstop ih

theorem doubleQuotes_eq_flatMap (cs : List Char) :
    doubleQuotes cs = cs.flatMap fun c => if c = '"' then ['"', '"'] else [c] := by
  induction cs with
  | nil => rfl
  | cons c rest ih => by_cases hc : c = '"' <;> simp [doubleQuotes, hc, ih]

/-! ### A literal in front of a text -/

section Literal
variable (content : String) {rest : String}

theorem toList_quoteLiteral :
    (quoteLiteral content).toList = '"' :: (doubleQuotes content.toList ++ ['"']) := by
  simp [quoteLiteral]

/-- The literal is cut off first, and then the text behind it. -/
theorem segments_literal (hrest : rest.toList.head? ≠ some '"')
    (h : Segments 0 rest.toList placed position left) :
    Segments 0 (quoteLiteral content ++ rest).toList
      (⟨.text content, 0⟩ :: placed.map (·.moved (quoteLiteral content).utf8ByteSize))
      (position + (quoteLiteral content).utf8ByteSize) left := by
  have hsize : byteLength ('"' :: (doubleQuotes content.toList ++ ['"'])) =
      (quoteLiteral content).utf8ByteSize := by
    rw [← toList_quoteLiteral, byteLength, String.ofList_toList]
  have hbehind := h.moved (quoteLiteral content).utf8ByteSize
  rw [← hsize] at hbehind ⊢
  rw [String.toList_append, toList_quoteLiteral]
  refine .cons (.text content) (fun next hnext hquote => hrest ?_) hbehind
  rw [Option.mem_def.mp hnext, show next = '"' from hquote]

theorem tokenize_literal_of_ok (hrest : rest.toList.head? ≠ some '"') {tokens : Tokens}
    (h : tokenize rest = .ok tokens) : tokenize (quoteLiteral content ++ rest) =
      .ok ⟨⟨.text content, 0⟩ :: tokens.ahead.map (·.moved (quoteLiteral content).utf8ByteSize),
        tokens.finish + (quoteLiteral content).utf8ByteSize⟩ :=
  (segments_literal content hrest (segments_of_tokenize h)).tokenize

theorem tokenize_literal_of_error (hrest : rest.toList.head? ≠ some '"') {error : FormulaError}
    (h : tokenize rest = .error error) : ∃ position fault, error = .malformed position fault ∧
      tokenize (quoteLiteral content ++ rest) =
        .error (.malformed (position + (quoteLiteral content).utf8ByteSize) fault) := by
  obtain ⟨placed, position, left, hsegments, rfl | ⟨c, more, fault, rfl, hstuck⟩⟩ :=
    exists_segments 0 [] rest.toList
  · cases hsegments.tokenize.symm.trans h
  · obtain rfl := Except.error.inj ((hsegments.tokenize_of_stuck hstuck).symm.trans h)
    have hliteral := segments_literal content hrest hsegments
    exact ⟨position, fault, rfl, hliteral.tokenize_of_stuck hstuck⟩

/-! ### A literal as a formula -/

theorem parse_literal : parse ("=" ++ quoteLiteral content) =
    .ok (.text content) := by
  have hbody : body ("=" ++ quoteLiteral content) = quoteLiteral content := by
    simp [body]
  obtain ⟨tokens, htokens, hkinds⟩ : ∃ tokens, tokenize (quoteLiteral content) = .ok tokens ∧
      tokens.kinds = [.text content] := by
    have hnothing : tokenize "" = .ok ⟨[], 0⟩ := by decide +kernel
    have hread := tokenize_literal_of_ok content (by decide) hnothing
    rw [String.append_empty] at hread
    exact ⟨_, hread, rfl⟩
  have hheight : (Expr.text content).height ≤ maxHeight := by
    rw [Expr.height]
    decide
  have hderives : Derives (.tier .logical) ⟨tokens.kinds, .text content, 0⟩ := by
    rw [hkinds]
    exact .operand (.comparison (.operand (.operand (.operand (.operand (.stepped (.primary
      (.text content))))))))
  rw [parse_eq_ok, hbody, parseBody, htokens]
  exact parseTokens_eq_ok.mpr ⟨0, Nat.zero_le _, hheight, hderives⟩

theorem references_literal :
    references ("=" ++ quoteLiteral content) = .ok ∅ := by
  rw [references, parse_literal]
  refine congrArg Except.ok (Std.ExtTreeSet.ext_mem fun a => ?_)
  simp [Expr.mem_references, Expr.nodes]

end Literal

/-- **A quoted text is read back as it was, whatever it contains.**  It is written with each of its
quotes twice and one more on either side, as the tree of it is printed.  In front of a text that
does not begin with a quote it is one token, and the tokens of that text follow as far behind as the
literal is long; a fault of that text stays the same fault, as far behind.  As a formula it has the
text as its value, whatever the cells show, and reads no cell. -/
theorem literal_reads_back (content : String) :
    (quoteLiteral content).toList = '"' ::
      (content.toList.flatMap fun c => if c = '"' then ['"', '"'] else [c]) ++ ['"'] ∧
    (Expr.text content).render = quoteLiteral content ∧
    (∀ rest : String, rest.toList.head? ≠ some '"' →
      (∀ tokens, tokenize rest = .ok tokens → tokenize (quoteLiteral content ++ rest) =
        .ok ⟨⟨.text content, 0⟩ :: tokens.ahead.map fun entry =>
            ⟨entry.token, entry.offset + (quoteLiteral content).utf8ByteSize⟩,
          tokens.finish + (quoteLiteral content).utf8ByteSize⟩) ∧
      (∀ error, tokenize rest = .error error → ∃ position fault,
        error = .malformed position fault ∧ tokenize (quoteLiteral content ++ rest) =
          .error (.malformed (position + (quoteLiteral content).utf8ByteSize) fault)) ∧
      ((∃ error, tokenize (quoteLiteral content ++ rest) = .error error) ↔
        ∃ error, tokenize rest = .error error)) ∧
    parse ("=" ++ quoteLiteral content) = .ok (.text content) ∧
    (∀ limits lookup, evaluate limits lookup ("=" ++ quoteLiteral content) =
      .ok (.text content)) ∧
    references ("=" ++ quoteLiteral content) = .ok ∅ := by
  refine ⟨?_, rfl, fun rest hrest => ⟨fun tokens => tokenize_literal_of_ok content hrest,
    fun error => tokenize_literal_of_error content hrest, ?_, ?_⟩, parse_literal content,
    fun limits lookup => ?_, references_literal content⟩
  · rw [toList_quoteLiteral, doubleQuotes_eq_flatMap, List.cons_append]
  · rintro ⟨error, herror⟩
    cases hread : tokenize rest with
    | ok tokens => cases (tokenize_literal_of_ok content hrest hread).symm.trans herror
    | error fault => exact ⟨fault, rfl⟩
  · rintro ⟨error, herror⟩
    obtain ⟨position, fault, -, hread⟩ := tokenize_literal_of_error content hrest herror
    exact ⟨_, hread⟩
  · rw [evaluate, parse_literal]
    rfl

/-- A text with quotes, a cell, an operator and a character of two bytes in it. -/
def quotedText : String := "say \"B2+é\""

/-- What stands behind the literal of this text is read or refused 15 bytes further. -/
theorem quotedText_moves :
    tokenize (quoteLiteral quotedText ++ "<>A1") = .ok
      ⟨[⟨.text quotedText, 0⟩, ⟨.symbol .notEqual, 15⟩, ⟨.cell "A1", 17⟩], 19⟩ ∧
    tokenize (quoteLiteral quotedText ++ " $") =
      .error (.malformed 16 (.unexpectedCharacter '$')) := by
  obtain ⟨-, -, hbehind, -⟩ := literal_reads_back quotedText
  have hsize : (quoteLiteral quotedText).utf8ByteSize = 15 := by decide +kernel
  rw [hsize] at hbehind
  obtain ⟨hread, -, -⟩ := hbehind "<>A1" (by decide)
  obtain ⟨-, hrefused, -⟩ := hbehind " $" (by decide)
  refine ⟨hread ⟨[⟨.symbol .notEqual, 0⟩, ⟨.cell "A1", 2⟩], 4⟩ (by decide +kernel), ?_⟩
  obtain ⟨position, fault, herror, hmoved⟩ :=
    hrefused (.malformed 1 (.unexpectedCharacter '$')) (by decide +kernel)
  obtain ⟨rfl, rfl⟩ := FormulaError.malformed.inj herror
  exact hmoved

end Gridcalc.Formula
