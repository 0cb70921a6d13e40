import Gridcalc.Proofs.Formula.Segmentation
import Mathlib.Logic.Relation

/-! # Reading tokens byte by byte

`tokenize` takes one character after another.  Here the same tokens are read by a machine that goes
over the bytes of the text.  It looks at single bytes only, counts its position in bytes, and takes
what it has to look at as characters out of the text by two byte positions (`slice?`) or from one on
(`cut?`).  Such a cut inside of a character is a crash.

A byte below 128 is a character of its own, and all the bytes of any other character are above, so
that a class of such characters is told by single bytes (`Tells`).  Hence the machine goes from one
boundary of characters to another, and in each step it does what is done with the character that
begins there (`step_of_blank`, `step_of_char`).
-/
namespace Gridcalc.Formula.Bytewise

/-! ### Bytes and cuts -/

/-- The bytes of a text. -/
def bytes (text : String) : List UInt8 := text.toByteArray.data.toList

/-- The bytes of some characters. -/
def bytesOf (cs : List Char) : List UInt8 := cs.flatMap String.utf8EncodeChar

/-- Cuts characters at a byte, unless it is inside of a character or behind the end. -/
def cut? : List Char → Nat → Option (List Char × List Char)
  | cs, 0 => some ([], cs)
  | [], _ + 1 => none
  | c :: cs, n + 1 =>
    if c.utf8Size ≤ n + 1 then
      (cut? cs (n + 1 - c.utf8Size)).map fun (front, back) => (c :: front, back)
    else none

/-- The characters between two bytes. -/
def slice? (cs : List Char) (start stop : Nat) : Option (List Char) := do
  let (_, back) ← cut? cs start
  let (inner, _) ← cut? back (stop - start)
  return inner

/-! ### The machine -/

/-- ASCII blanks. -/
def isSpaceByte (b : UInt8) : Bool := b == 32 || b == 9 || b == 10 || b == 12 || b == 13

/-- ASCII digits. -/
def isDigitByte (b : UInt8) : Bool := 48 ≤ b && b ≤ 57

/-- ASCII letters. -/
def isAlphaByte (b : UInt8) : Bool := 65 ≤ b && b ≤ 90 || 97 ≤ b && b ≤ 122

def isQuoteByte (b : UInt8) : Bool := b == 34

def isWordStartByte (b : UInt8) : Bool := isAlphaByte b || b == 95

def isWordByte (b : UInt8) : Bool := isAlphaByte b || isDigitByte b || b == 95

/-- The longest symbol at the front of some bytes. -/
def symbolAt? (bytes : List UInt8) : Option Symbol :=
  Symbol.all.find? fun s => (bytesOf s.spelling.toList).isPrefixOf bytes

/-- Reads a text literal from behind its first quote.  The characters so far are kept with the
latest first, and the position behind the last quote is counted in bytes. -/
def literal? (pos : Nat) (read : List Char) : List Char → Option (String × Nat)
  | [] => none
  | '"' :: '"' :: rest => literal? (pos + 2) ('"' :: read) rest
  | c :: rest =>
    if c = '"' then some (String.ofList read.reverse, pos + 1)
    else literal? (pos + c.utf8Size) (c :: read) rest

structure State where
  /-- The byte that is looked at next. -/
  pos : Nat
  /-- The tokens so far, the latest first. -/
  read : List Placed

/-- What a step leads to. -/
inductive Progress where
  | next (state : State)
  | stop (outcome : Except FormulaError Tokens)
  | crash

/-- Takes a token up to a position. -/
def State.take (s : State) (token : Token) (stop : Nat) : State :=
  ⟨stop, ⟨token, s.pos⟩ :: s.read⟩

/-- **One round of the loop over the bytes.** -/
def step (text : String) (s : State) : Progress :=
  match (bytes text).drop s.pos with
  | [] => .stop (.ok ⟨s.read.reverse, text.utf8ByteSize⟩)
  | b :: more =>
    if isSpaceByte b then .next ⟨s.pos + 1, s.read⟩
    else if isDigitByte b then
      let stop := s.pos + ((b :: more).takeWhile isDigitByte).length
      match slice? text.toList s.pos stop with
      | some digits => .next (s.take (.number (Nat.ofDigitChars 10 digits 0)) stop)
      | none => .crash
    else if isQuoteByte b then
      match cut? text.toList (s.pos + 1) with
      | some (_, inner) =>
        match literal? (s.pos + 1) [] inner with
        | some (content, stop) => .next (s.take (.text content) stop)
        | none => .stop (.error (.malformed s.pos .unterminatedText))
      | none => .crash
    else if isWordStartByte b then
      let stop := s.pos + ((b :: more).takeWhile isWordByte).length
      match slice? text.toList s.pos stop with
      | some word => .next (s.take (.ofWord word) stop)
      | none => .crash
    else
      match symbolAt? (b :: more) with
      | some symbol =>
        .next (s.take (.symbol symbol) (s.pos + (bytesOf symbol.spelling.toList).length))
      | none =>
        match cut? text.toList s.pos with
        | some (_, found) =>
          .stop (.error (.malformed s.pos (.unexpectedCharacter (found.headD '?'))))
        | none => .crash

/-- The machine goes from one state to another. -/
def Step (text : String) (s t : State) : Prop := step text s = .next t

/-- **The states of the run over a text.** -/
def Reached (text : String) (s : State) : Prop := Relation.ReflTransGen (Step text) ⟨0, []⟩ s

/-! ### What is cut -/

variable {cs front back more rest : List Char} {c : Char} {n : Nat}

theorem bytes_eq (text : String) : bytes text = bytesOf text.toList := by
  rw [bytes, ← String.utf8Encode_toList, List.utf8Encode, List.toList_data_toByteArray]
  rfl

theorem length_bytesOf (cs : List Char) : (bytesOf cs).length = byteLength cs := by
  induction cs with
  | nil => rfl
  | cons c cs ih =>
    rw [bytesOf, List.flatMap_cons, List.length_append, String.length_utf8EncodeChar,
      byteLength_cons, ← ih]
    rfl

theorem bytesOf_append : bytesOf (front ++ back) = bytesOf front ++ bytesOf back :=
  List.flatMap_append

theorem cut?_append : ∀ front : List Char,
    cut? (front ++ back) (byteLength front) = some (front, back)
  | [] => by cases back <;> rfl
  | c :: front => by
    have hpos : 0 < byteLength (c :: front) := byteLength_pos (List.cons_ne_nil c front)
    obtain ⟨n, hn⟩ := Nat.exists_eq_succ_of_ne_zero (Nat.ne_of_gt hpos)
    have hlength := byteLength_cons c front
    have hrest : n + 1 - c.utf8Size = byteLength front := by omega
    rw [List.cons_append, hn, cut?, if_pos (by omega), hrest, cut?_append front]
    rfl

/-- A cut is possible at the boundaries of characters only. -/
theorem cut?_eq_some : ∀ {cs : List Char} {n : Nat} {front back : List Char},
    cut? cs n = some (front, back) ↔ cs = front ++ back ∧ n = byteLength front := by
  refine fun {cs n front back} => ⟨fun h => ?_, ?_⟩
  · fun_induction cut? cs n generalizing front back with
    | case1 cs =>
      obtain ⟨rfl, rfl⟩ := Prod.mk.inj (Option.some.inj h)
      exact ⟨rfl, rfl⟩
    | case2 n => cases h
    | case3 c cs n hle ih =>
      obtain ⟨⟨inner, behind⟩, hinner, h⟩ := Option.map_eq_some_iff.mp h
      obtain ⟨rfl, rfl⟩ := Prod.mk.inj h
      obtain ⟨rfl, hlength⟩ := ih hinner
      exact ⟨rfl, by rw [byteLength_cons]; omega⟩
    | case4 c cs n hlt => cases h
  · rintro ⟨rfl, rfl⟩
    exact cut?_append front

theorem slice?_append (front inner back : List Char) :
    slice? (front ++ (inner ++ back)) (byteLength front) (byteLength front + byteLength inner) =
      some inner := by
  simp only [slice?, cut?_append, Nat.add_sub_cancel_left, Option.bind_eq_bind, Option.bind_some]
  rfl

theorem drop_bytesOf (front back : List Char) :
    (bytesOf (front ++ back)).drop (byteLength front) = bytesOf back := by
  rw [bytesOf_append, ← length_bytesOf, List.drop_left]

/-! ### Classes of characters -/

/-- **A class of bytes tells a class of characters by their first bytes,** and the characters in it
are single bytes. -/
structure Tells (P : UInt8 → Bool) (p : Char → Bool) : Prop where
  single : ∀ c, p c = true → ∃ b, String.utf8EncodeChar c = [b] ∧ P b = true
  other : ∀ c, p c = false → ∃ b bs, String.utf8EncodeChar c = b :: bs ∧ P b = false

theorem utf8EncodeChar_of_lt (h : c.toNat < 128) :
    String.utf8EncodeChar c = [UInt8.ofNat c.toNat] := by
  have hle : c.val.toNat ≤ 127 := Nat.le_of_lt_succ h
  rw [String.utf8EncodeChar, if_pos hle]
  rfl

/-- A character of more than one byte begins with a byte that is no ASCII character. -/
theorem utf8EncodeChar_of_ge (h : 128 ≤ c.toNat) :
    ∃ b bs, String.utf8EncodeChar c = b :: bs ∧ 128 ≤ b := by
  have hgt : ¬c.val.toNat ≤ 127 := Nat.not_le_of_gt h
  have hbyte {n : Nat} (hlow : 128 ≤ n) (hhigh : n < 256) : (128 : UInt8) ≤ UInt8.ofNat n := by
    rw [UInt8.le_iff_toNat_le, UInt8.toNat_ofNat', Nat.mod_eq_of_lt hhigh]
    exact hlow
  rw [String.utf8EncodeChar]
  simp only [if_neg hgt]
  split
  · exact ⟨_, _, rfl, hbyte (by omega) (by omega)⟩
  · split
    · exact ⟨_, _, rfl, hbyte (by omega) (by omega)⟩
    · exact ⟨_, _, rfl, hbyte (by omega) (by omega)⟩

/-- A class of ASCII characters is told by ASCII bytes. -/
theorem tells_of_ascii {P : UInt8 → Bool} {p : Char → Bool}
    (hbytes : ∀ n < 256, P (UInt8.ofNat n) = (decide (n < 128) && p (Char.ofNat n)))
    (hascii : ∀ c, p c = true → c.toNat < 128) : Tells P p where
  single c hc := by
    have hlt := hascii c hc
    refine ⟨_, utf8EncodeChar_of_lt hlt, ?_⟩
    rw [hbytes _ (by omega), Char.ofNat_toNat, hc, decide_eq_true hlt, Bool.true_and]
  other c hc := by
    by_cases hlt : c.toNat < 128
    · refine ⟨_, [], utf8EncodeChar_of_lt hlt, ?_⟩
      rw [hbytes _ (by omega), Char.ofNat_toNat, hc, Bool.and_false]
    · obtain ⟨b, bs, hchar, hb⟩ := utf8EncodeChar_of_ge (Nat.le_of_not_lt hlt)
      refine ⟨b, bs, hchar, ?_⟩
      have hhigh : ¬b.toNat < 128 := Nat.not_lt_of_le (UInt8.le_iff_toNat_le.mp hb)
      rw [← @UInt8.ofNat_toNat b, hbytes _ b.toNat_lt, decide_eq_false hhigh, Bool.false_and]

theorem toNat_lt_of_isDigit (h : c.isDigit = true) : c.toNat < 128 := by
  simp only [Char.isDigit, Bool.and_eq_true, decide_eq_true_eq, ge_iff_le,
    UInt32.le_iff_toNat_le] at h
  exact Nat.lt_of_le_of_lt h.2 (by decide)

theorem toNat_lt_of_isAlpha (h : c.isAlpha = true) : c.toNat < 128 := by
  simp only [Char.isAlpha, Char.isUpper, Char.isLower, Bool.or_eq_true, Bool.and_eq_true,
    decide_eq_true_eq, ge_iff_le, UInt32.le_iff_toNat_le] at h
  obtain h | h := h
  · exact Nat.lt_of_le_of_lt h.2 (by decide)
  · exact Nat.lt_of_le_of_lt h.2 (by decide)

theorem toNat_lt_of_isWordChar (h : isWordChar c = true) : c.toNat < 128 := by
  simp only [isWordChar, Char.isAlphanum, Bool.or_eq_true, beq_iff_eq] at h
  obtain (h | h) | rfl := h
  · exact toNat_lt_of_isAlpha h
  · exact toNat_lt_of_isDigit h
  · decide

theorem toNat_lt_of_isSpace (h : isSpace c = true) : c.toNat < 128 := by
  simp only [isSpace, Bool.or_eq_true, beq_iff_eq] at h
  obtain (((rfl | rfl) | rfl) | rfl) | rfl := h <;> decide

theorem tells_space : Tells isSpaceByte isSpace :=
  tells_of_ascii (by decide +kernel) fun _ => toNat_lt_of_isSpace

theorem tells_digit : Tells isDigitByte Char.isDigit :=
  tells_of_ascii (by decide +kernel) fun _ => toNat_lt_of_isDigit

theorem tells_quote : Tells isQuoteByte (· == '"') :=
  tells_of_ascii (by decide +kernel) fun c hc => by
    obtain rfl := beq_iff_eq.mp hc
    decide

theorem tells_wordStart : Tells isWordStartByte isWordStart :=
  tells_of_ascii (by decide +kernel) fun _ hc =>
    toNat_lt_of_isWordChar (isWordChar_of_isWordStart hc)

theorem tells_word : Tells isWordByte isWordChar :=
  tells_of_ascii (by decide +kernel) fun _ => toNat_lt_of_isWordChar

section Tells
variable {P : UInt8 → Bool} {p : Char → Bool}

/-- The first byte of a character is in the class exactly when the character is. -/
theorem Tells.first (h : Tells P p) {b : UInt8} {bs : List UInt8}
    (hb : String.utf8EncodeChar c = b :: bs) : P b = p c := by
  cases hc : p c with
  | true =>
    obtain ⟨first, hfirst, hP⟩ := h.single c hc
    rwa [← (List.cons.inj (hb.symm.trans hfirst)).1] at hP
  | false =>
    obtain ⟨first, more, hfirst, hP⟩ := h.other c hc
    rwa [← (List.cons.inj (hb.symm.trans hfirst)).1] at hP

/-- A run of bytes in the class is a run of characters. -/
theorem Tells.takeWhile (h : Tells P p) : ∀ cs : List Char,
    ((bytesOf cs).takeWhile P).length = byteLength (cs.takeWhile p)
  | [] => rfl
  | c :: cs => by
    cases hc : p c with
    | true =>
      obtain ⟨b, hb, hP⟩ := h.single c hc
      have hsize : c.utf8Size = 1 := by rw [← String.length_utf8EncodeChar, hb]; rfl
      have hbytes : bytesOf (c :: cs) = b :: bytesOf cs := by
        rw [bytesOf, List.flatMap_cons, hb]
        rfl
      rw [hbytes, List.takeWhile_cons_of_pos hP, List.takeWhile_cons_of_pos hc, List.length_cons,
        h.takeWhile cs, byteLength_cons, hsize, Nat.add_comm]
    | false =>
      obtain ⟨b, bs, hb, hP⟩ := h.other c hc
      have hbytes : bytesOf (c :: cs) = b :: (bs ++ bytesOf cs) := by
        rw [bytesOf, List.flatMap_cons, hb]
        rfl
      rw [hbytes, List.takeWhile_cons_of_neg (by rw [hP]; exact Bool.false_ne_true),
        List.takeWhile_cons_of_neg (by rw [hc]; exact Bool.false_ne_true)]
      rfl

end Tells

/-! ### Symbols and literals -/

/-- Some bytes begin with those of some characters exactly when the characters begin with them. -/
theorem bytesOf_prefix : bytesOf front <+: bytesOf cs ↔ front <+: cs := by
  constructor
  · rintro ⟨bytes, hbytes⟩
    refine List.isPrefix_of_utf8Encode_append_eq_utf8Encode bytes.toByteArray ?_
    rw [List.utf8Encode, List.utf8Encode, ← List.toByteArray_append]
    exact congrArg List.toByteArray hbytes
  · rintro ⟨back, rfl⟩
    exact ⟨bytesOf back, bytesOf_append.symm⟩

theorem symbolAt?_bytesOf (cs : List Char) : symbolAt? (bytesOf cs) = Symbol.atFront? cs := by
  refine congrArg (fun test => List.find? test Symbol.all) (funext fun s => ?_)
  rw [Bool.eq_iff_iff, List.isPrefixOf_iff_prefix, List.isPrefixOf_iff_prefix, bytesOf_prefix]

theorem halveQuotes_cons (hc : c ≠ '"') : halveQuotes (c :: rest) = c :: halveQuotes rest := by
  rw [halveQuotes]
  rintro _ rfl
  exact absurd rfl hc

/-- What is read character by character is the body of the literal, with its quotes halved. -/
theorem literal?_eq (pos : Nat) (read rest : List Char) : literal? pos read rest =
    (literalBody? rest).map fun body =>
      (String.ofList (read.reverse ++ halveQuotes body), pos + byteLength body + 1) := by
  fun_induction literalBody? rest generalizing pos read with
  | case1 => rfl
  | case2 rest ih =>
    have hsize (body : List Char) : pos + 2 + byteLength body =
        pos + byteLength ('"' :: '"' :: body) := by
      rw [byteLength_cons, byteLength_cons]
      have hquote : '"'.utf8Size = 1 := by decide
      omega
    rw [literal?, ih, Option.map_map]
    refine congrArg (fun f => Option.map f _) (funext fun body => ?_)
    simp [hsize, halveQuotes]
  | case3 rest hsingle =>
    rw [literal?, if_pos rfl, Option.map_some, halveQuotes, List.append_nil]
    · rfl
    · exact hsingle
  | case4 c rest hother hc ih =>
    have hsize (body : List Char) : pos + c.utf8Size + byteLength body =
        pos + byteLength (c :: body) := by
      rw [byteLength_cons, Nat.add_assoc]
    rw [literal?, if_neg hc, ih, Option.map_map]
    · refine congrArg (fun f => Option.map f _) (funext fun body => ?_)
      simp [hsize, halveQuotes_cons hc]
    · exact hother

/-! ### Steps -/

/-- A state looks at the beginning of a character, or at the end of the text. -/
structure State.At (text : String) (s : State) (front back : List Char) : Prop where
  chars : text.toList = front ++ back
  pos : s.pos = byteLength front

section Steps
variable {text : String} {s : State}

theorem step_of_end (h : s.At text front []) :
    step text s = .stop (.ok ⟨s.read.reverse, s.pos⟩) := by
  have hend : text.utf8ByteSize = byteLength front := by
    rw [← String.ofList_toList (s := text), h.chars, List.append_nil]
    rfl
  unfold step
  rw [bytes_eq, h.chars, h.pos, drop_bytesOf, hend]
  rfl

theorem step_of_blank (h : s.At text front (c :: rest)) (hc : isSpace c = true) :
    step text s = .next ⟨s.pos + 1, s.read⟩ := by
  obtain ⟨b, hb, -⟩ := tells_space.single c hc
  have hbytes : (bytes text).drop s.pos = b :: bytesOf rest := by
    rw [bytes_eq, h.chars, h.pos, drop_bytesOf, bytesOf, List.flatMap_cons, hb]
    rfl
  unfold step
  simp only [hbytes, tells_space.first hb, hc, if_true]

/-- A run of characters is cut out of the text. -/
theorem State.At.slice?_eq {p : Char → Bool} (h : s.At text front (c :: rest)) :
    slice? text.toList s.pos (s.pos + byteLength (c :: rest.takeWhile p)) =
      some (c :: rest.takeWhile p) := by
  have hsplit : text.toList = front ++ ((c :: rest.takeWhile p) ++ rest.dropWhile p) := by
    rw [List.cons_append, List.takeWhile_append_dropWhile]
    exact h.chars
  rw [hsplit, h.pos]
  exact slice?_append _ _ _

/-- The text is cut in front of the character that is looked at. -/
theorem State.At.cut?_eq (h : s.At text front (c :: rest)) :
    cut? text.toList s.pos = some (front, c :: rest) := by
  rw [h.chars, h.pos]
  exact cut?_append front

/-- The text is cut behind the character that is looked at, if that is a single byte. -/
theorem State.At.cut?_behind (h : s.At text front (c :: rest)) (hsize : c.utf8Size = 1) :
    cut? text.toList (s.pos + 1) = some (front ++ [c], rest) := by
  have hlength : s.pos + 1 = byteLength (front ++ [c]) := by
    rw [byteLength_append, byteLength_cons, hsize, h.pos]
    rfl
  refine cut?_eq_some.mpr ⟨?_, hlength⟩
  rw [h.chars, List.append_assoc]
  rfl

theorem cons_tail_of_atFront? {symbol : Symbol} (h : Symbol.atFront? (c :: rest) = some symbol) :
    c :: symbol.spelling.toList.tail = symbol.spelling.toList := by
  obtain ⟨behind, hsplit, -⟩ := isPrefix_of_atFront? h
  cases hspelling : symbol.spelling.toList with
  | nil => cases symbol <;> exact absurd hspelling (by decide)
  | cons first more =>
    rw [hspelling] at hsplit
    rw [(List.cons.inj hsplit).1, List.tail_cons]

/-- **With the character that begins at its position the machine does what is done with it when the
text is read by characters.** -/
theorem step_of_char (h : s.At text front (c :: rest)) (hc : isSpace c = false) :
    step text s = match lexeme c rest with
      | .ok (token, more) => .next (s.take token (s.pos + byteLength (c :: more)))
      | .error fault => .stop (.error (.malformed s.pos fault)) := by
  obtain ⟨b, bs, hb, -⟩ := tells_space.other c hc
  have hcons : bytesOf (c :: rest) = b :: (bs ++ bytesOf rest) := by
    rw [bytesOf, List.flatMap_cons, hb]
    rfl
  have hbytes : (bytes text).drop s.pos = b :: (bs ++ bytesOf rest) := by
    rw [bytes_eq, h.chars, h.pos, drop_bytesOf, hcons]
  -- The tests of the first byte have the outcomes of those of the character.
  unfold step lexeme
  simp only [hbytes, tells_space.first hb, tells_digit.first hb, tells_quote.first hb,
    tells_wordStart.first hb, hc, Bool.false_eq_true, if_false]
  rw [← hcons]
  by_cases hdigit : c.isDigit = true
  · simp only [if_pos hdigit, tells_digit.takeWhile, List.takeWhile_cons_of_pos hdigit, h.slice?_eq]
  simp only [if_neg hdigit]
  by_cases hquote : c = '"'
  · subst hquote
    simp only [beq_self_eq_true, if_true, h.cut?_behind (by decide), literal?_eq]
    cases literalBody? rest with
    | none => rfl
    | some body =>
      have hlength : s.pos + 1 + byteLength body + 1 =
          s.pos + byteLength ('"' :: (body ++ ['"'])) := by
        have hone : '"'.utf8Size = 1 := by decide
        have hlast : byteLength ['"'] = 1 := by decide
        rw [byteLength_cons, byteLength_append]
        omega
      simp only [Option.map_some, List.reverse_nil, List.nil_append, hlength]
  simp only [beq_iff_eq, if_neg hquote]
  by_cases hstart : isWordStart c = true
  · have hword := isWordChar_of_isWordStart hstart
    simp only [if_pos hstart, tells_word.takeWhile, List.takeWhile_cons_of_pos hword, h.slice?_eq]
  simp only [if_neg hstart, symbolAt?_bytesOf]
  cases hsymbol : Symbol.atFront? (c :: rest) with
  | some symbol => simp only [length_bytesOf, cons_tail_of_atFront? hsymbol]
  | none => simp only [h.cut?_eq, List.headD_cons]

/-! ### Runs -/

theorem State.At.blank (h : s.At text front (c :: rest)) (hc : isSpace c = true) :
    State.At text ⟨s.pos + 1, s.read⟩ (front ++ [c]) rest where
  chars := by rw [h.chars, List.append_assoc, List.singleton_append]
  pos := by rw [byteLength_append, byteLength_cons, utf8Size_of_isSpace hc, h.pos]; rfl

theorem State.At.take {token : Token} (h : s.At text front (c :: rest))
    (hlexeme : lexeme c rest = .ok (token, more)) :
    (s.take token (s.pos + byteLength (c :: more))).At text (front ++ c :: more)
      (rest.drop more.length) := by
  obtain ⟨behind, rfl, -⟩ := isLexeme_of_lexeme hlexeme
  refine ⟨?_, ?_⟩
  · rw [h.chars, List.drop_left, List.append_assoc, List.cons_append]
  · rw [byteLength_append, ← h.pos]
    rfl

/-- **A step goes to a boundary of characters,** and is no crash. -/
theorem State.At.step (h : s.At text front rest) :
    Bytewise.step text s ≠ .crash ∧
      ∀ t, Step text s t → ∃ front back, t.At text front back := by
  cases rest with
  | nil =>
    rw [step_of_end h]
    refine ⟨nofun, fun t hstep => ?_⟩
    cases (step_of_end h).symm.trans hstep
  | cons c rest =>
    cases hc : isSpace c with
    | true =>
      have hnext := step_of_blank h hc
      refine ⟨by rw [hnext]; nofun, fun t hstep => ?_⟩
      obtain rfl := Progress.next.inj (hnext.symm.trans hstep)
      exact ⟨_, _, h.blank hc⟩
    | false =>
      have hnext := step_of_char h hc
      cases hlexeme : lexeme c rest with
      | ok result =>
        rw [hlexeme] at hnext
        refine ⟨by rw [hnext]; nofun, fun t hstep => ?_⟩
        obtain rfl := Progress.next.inj (hnext.symm.trans hstep)
        exact ⟨_, _, h.take hlexeme⟩
      | error fault =>
        rw [hlexeme] at hnext
        refine ⟨by rw [hnext]; nofun, fun t hstep => ?_⟩
        cases hnext.symm.trans hstep

/-- **Every state of a run looks at a boundary of characters.** -/
theorem Reached.at (h : Reached text s) : ∃ front back, s.At text front back := by
  induction h with
  | refl => exact ⟨[], text.toList, rfl, rfl⟩
  | tail _ hstep ih =>
    obtain ⟨front, back, hat⟩ := ih
    exact hat.step.2 _ hstep

/-- **The run from a state comes to its end, with what is left of the text read by characters.** -/
theorem exists_stop (pos : Nat) (read : List Placed) (cs : List Char) : ∀ front : List Char,
    State.At text ⟨pos, read⟩ front cs → ∃ last,
      Relation.ReflTransGen (Step text) ⟨pos, read⟩ last ∧
        step text last = .stop (Tokens.scan pos read cs) := by
  induction pos, read, cs using Tokens.scan.induct with
  | case1 pos read =>
    intro front h
    exact ⟨_, .refl, by rw [step_of_end h, Tokens.scan]⟩
  | case2 pos read c rest hspace ih =>
    intro front h
    obtain ⟨last, hsteps, hstop⟩ := ih _ (h.blank hspace)
    rw [Tokens.scan, if_pos hspace]
    exact ⟨last, .head (step_of_blank h hspace) hsteps, hstop⟩
  | case3 pos read c rest hspace token more hlexeme ih =>
    intro front h
    have hc := Bool.eq_false_iff.mpr hspace
    obtain ⟨last, hsteps, hstop⟩ := ih _ (h.take hlexeme)
    rw [Tokens.scan, if_neg hspace, hlexeme]
    refine ⟨last, .head ?_ hsteps, hstop⟩
    rw [Step, step_of_char h hc, hlexeme]
    rfl
  | case4 pos read c rest hspace fault hlexeme =>
    intro front h
    refine ⟨_, .refl, ?_⟩
    rw [step_of_char h (Bool.eq_false_iff.mpr hspace), Tokens.scan, if_neg hspace, hlexeme]

/-- **The run over a text comes to its end, with its tokens.** -/
theorem exists_stop_tokenize (text : String) :
    ∃ last, Reached text last ∧ step text last = .stop (tokenize text) :=
  exists_stop 0 [] text.toList [] ⟨rfl, rfl⟩

end Steps
end Gridcalc.Formula.Bytewise
