import Gridcalc.Proofs.Formula.Bytewise
import Gridcalc.Proofs.Formula.Descent.Agreement

/-! # Positions of syntax errors

A formula is refused where no token can be read, or at one of its tokens or its end.  All these
positions are boundaries of characters in the text that is read, and with the equals sign that may
stand in front of it they are boundaries in the formula.
-/
namespace Gridcalc.Formula
variable {cs left : List Char} {text : String} {offset position : Nat} {placed : List Placed}

/-- A byte is a boundary of characters when it ends the first few of them. -/
theorem isValid_iff : String.Pos.Raw.IsValid text ⟨position⟩ ↔
    ∃ front back, text.toList = front ++ back ∧ position = byteLength front := by
  rw [String.Pos.Raw.isValid_iff_exists_append]
  constructor
  · rintro ⟨front, back, rfl, hposition⟩
    refine ⟨front.toList, back.toList, String.toList_append, ?_⟩
    rw [byteLength, String.ofList_toList]
    exact congrArg String.Pos.Raw.byteIdx hposition
  · rintro ⟨front, back, hchars, rfl⟩
    refine ⟨String.ofList front, String.ofList back, ?_, rfl⟩
    rw [← String.ofList_append, ← hchars, String.ofList_toList]

/-- The tokens begin at boundaries, and so does what is left. -/
theorem Segments.boundary (h : Segments offset cs placed position left) :
    (∃ front, cs = front ++ left ∧ position = offset + byteLength front) ∧
      ∀ entry ∈ placed, ∃ front back, cs = front ++ back ∧
        entry.offset = offset + byteLength front := by
  refine ⟨?_, fun entry hentry => ?_⟩
  · induction h with
    | @blanks offset gap left _ => exact ⟨gap, rfl, rfl⟩
    | @token offset position gap lexeme rest left token placed _ _ _ _ ih =>
      obtain ⟨front, rfl, hposition⟩ := ih
      refine ⟨gap ++ (lexeme ++ front), by simp, ?_⟩
      rw [hposition, byteLength_append, byteLength_append]
      omega
  · obtain ⟨front, lexeme, back, hsplit, hoffset, -, -⟩ := h.written entry hentry
    exact ⟨front, lexeme ++ back, hsplit, hoffset⟩

theorem Tokens.offset_of_skip? {tokens here : Tokens} {pos : Nat}
    (h : tokens.skip? pos = some here) :
    (∃ entry ∈ tokens.ahead, here.offset = entry.offset) ∨ here.offset = tokens.finish := by
  obtain ⟨-, rfl⟩ := skip?_eq_some.mp h
  rw [offset]
  cases hahead : (tokens.ahead.drop pos).head? with
  | none => exact .inr rfl
  | some entry => exact .inl ⟨entry, List.mem_of_mem_drop (List.mem_of_head? hahead), rfl⟩

/-- **What is no formula is refused at a boundary of the text that is read.** -/
theorem boundary_of_parseBody {error : FormulaError} (h : parseBody text = .error error) :
    ∃ front back fault, text.toList = front ++ back ∧
      error = .malformed (byteLength front) fault := by
  obtain ⟨placed, position, left, hsegments, hend⟩ := exists_segments 0 [] text.toList
  obtain ⟨⟨front, hfront, hposition⟩, hentries⟩ := hsegments.boundary
  rw [Nat.zero_add] at hposition
  rw [parseBody] at h
  obtain rfl | ⟨c, rest, fault, rfl, hstuck⟩ := hend
  · rw [hsegments.tokenize] at h
    obtain ⟨last, -, hstop⟩ := Descent.ends_parseTokens ⟨placed, position⟩
    have herror : parseTokens ⟨placed, position⟩ = .error error := h
    rw [herror] at hstop
    obtain ⟨here, fault, hhere, rfl⟩ := Descent.fail_of_stop hstop
    obtain ⟨entry, hentry, hoffset⟩ | hoffset := Tokens.offset_of_skip? hhere
    · obtain ⟨before, behind, hsplit, hplace⟩ := hentries entry hentry
      rw [Nat.zero_add] at hplace
      exact ⟨before, behind, fault, hsplit, by rw [hoffset, hplace]⟩
    · exact ⟨front, [], fault, hfront, by rw [hoffset, hposition]⟩
  · rw [hsegments.tokenize_of_stuck hstuck] at h
    obtain rfl := Except.error.inj h
    exact ⟨front, c :: rest, fault, hfront, by rw [hposition]⟩

/-- The text that is read begins behind the equals sign, if there is one. -/
theorem exists_skipped (formula : String) :
    ∃ skipped, formula.toList = skipped ++ (body formula).toList ∧
      byteLength skipped = base formula := by
  by_cases hhead : formula.toList.head? = some '='
  · obtain ⟨rest, hformula⟩ := List.head?_eq_some_iff.mp hhead
    refine ⟨['='], by rw [body_of_cons hformula, String.toList_ofList, hformula]; rfl, ?_⟩
    rw [base, if_pos hhead]
    decide
  · exact ⟨[], by rw [body_of_plain hhead, List.nil_append], by rw [base, if_neg hhead]; rfl⟩

/-- An equals sign in front moves errors by its byte, and nothing else. -/
theorem parse_equals (h : text.toList.head? ≠ some '=') :
    parse text = parseBody text ∧ parse ("=" ++ text) = (parseBody text).mapError (·.shift 1) := by
  have hcons : ("=" ++ text).toList = '=' :: text.toList := String.toList_append
  constructor
  · rw [parse_eq, body_of_plain h, base, if_neg h]
    cases parseBody text with
    | ok e => rfl
    | error error => cases error <;> rfl
  · rw [parse_eq, body_of_cons hcons, String.ofList_toList, base, hcons, List.head?_cons,
      if_pos rfl]

/-- **Syntax errors are told by places in the formula.**  Every text that is no formula has a syntax
error at a boundary of its characters, and not behind its end.  The tokens are read byte by byte
from one boundary to another, and the text is never cut inside of a character.  With an equals sign
in front a text is read as the same tree, or it has the same error one byte later. -/
theorem errors_placed :
    (∀ formula error, parse formula = .error error → ∃ position fault,
      error = .malformed position fault ∧ position ≤ formula.utf8ByteSize ∧
      String.Pos.Raw.IsValid formula ⟨position⟩) ∧
    (∀ text, (∀ s, Bytewise.Reached text s →
        String.Pos.Raw.IsValid text ⟨s.pos⟩ ∧ Bytewise.step text s ≠ .crash) ∧
      ∃ last, Bytewise.Reached text last ∧ Bytewise.step text last = .stop (tokenize text)) ∧
    ∀ text : String, text.toList.head? ≠ some '=' →
      (∃ e, parse text = .ok e ∧ parse ("=" ++ text) = .ok e) ∨
      ∃ position fault, parse text = .error (.malformed position fault) ∧
        parse ("=" ++ text) = .error (.malformed (position + 1) fault) := by
  refine ⟨fun formula error h => ?_,
    fun text => ⟨fun s hs => ?_, Bytewise.exists_stop_tokenize text⟩, fun text h => ?_⟩
  · obtain ⟨skipped, hformula, hskipped⟩ := exists_skipped formula
    rw [parse_eq] at h
    cases hread : parseBody (body formula) with
    | ok e =>
      rw [hread] at h
      cases h
    | error found =>
      obtain ⟨front, back, fault, hsplit, rfl⟩ := boundary_of_parseBody hread
      rw [hread] at h
      obtain rfl := Except.error.inj h
      have hvalid : String.Pos.Raw.IsValid formula ⟨byteLength front + base formula⟩ := by
        refine isValid_iff.mpr ⟨skipped ++ front, back, ?_, ?_⟩
        · rw [hformula, hsplit, List.append_assoc]
        · rw [byteLength_append, hskipped, Nat.add_comm]
      exact ⟨_, fault, rfl, hvalid.le_utf8ByteSize, hvalid⟩
  · obtain ⟨front, back, hat⟩ := hs.at
    exact ⟨isValid_iff.mpr ⟨front, back, hat.chars, hat.pos⟩, hat.step.1⟩
  · obtain ⟨hplain, hequals⟩ := parse_equals h
    rw [hplain, hequals]
    cases hread : parseBody text with
    | ok e => exact .inl ⟨e, rfl, rfl⟩
    | error found =>
      obtain ⟨front, -, fault, -, rfl⟩ := boundary_of_parseBody hread
      exact .inr ⟨_, fault, rfl, rfl⟩

/-- A text literal of four bytes, for its character takes two of them, and the same character behind
it. -/
def accentText : String := "\"é\"é"

/-- The second character is refused where it begins. -/
theorem accentText_refused :
    parse accentText = .error (.malformed 4 (.unexpectedCharacter 'é')) ∧
      parse ("=" ++ accentText) = .error (.malformed 5 (.unexpectedCharacter 'é')) ∧
      String.Pos.Raw.IsValid ("=" ++ accentText) ⟨5⟩ := by
  obtain ⟨hvalid, -, hequals⟩ := errors_placed
  have htokens : tokenize (body accentText) = .error (.malformed 4 (.unexpectedCharacter 'é')) := by
    decide +kernel
  have hbase : base accentText = 0 := by decide
  have hplain : parse accentText = .error (.malformed 4 (.unexpectedCharacter 'é')) := by
    rw [parse_eq, parseBody, htokens, hbase]
    rfl
  obtain ⟨e, hread, -⟩ | ⟨position, fault, hread, hshifted⟩ := hequals accentText (by decide)
  · cases hplain.symm.trans hread
  · cases hplain.symm.trans hread
    obtain ⟨_, _, hfound, -, hboundary⟩ := hvalid _ _ hshifted
    cases hfound
    exact ⟨hplain, hshifted, hboundary⟩

end Gridcalc.Formula
