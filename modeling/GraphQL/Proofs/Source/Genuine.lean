import GraphQL.Proofs.Source.Drawing
import GraphQL.Proofs.Text.Literal
import GraphQL.Proofs.Text.Name

/-!
# What the lexer reads

Not every lexeme stands in some text.  A name that is read is a name, an integer is digits
and perhaps a sign, a float has a point or an exponent besides, and the value of a block
string is trimmed.  So a document that a text stands for is drawn from such lexemes.
-/

namespace GraphQL
namespace Source

open Text

/-! ## Characters of numerals -/

/-- The characters that may open a numeral. -/
def isNumeralStart (c : Char) : Bool :=
  c.isDigit || c = '-'

/-- The characters that tell a float from an integer. -/
def isFloatMark (c : Char) : Bool :=
  c = '.' || c = 'e' || c = 'E'

/-- The characters of names and numerals. -/
def isWordChar (c : Char) : Bool :=
  Name.isContinue c || c = '.' || c = '-' || c = '+'

theorem isContinue_of_isDigit
    {c : Char}
    (digit : c.isDigit = true) :
    Name.isContinue c = true := by
  rw [Name.isContinue, Bool.or_eq_true]
  right
  simpa [Char.isDigit, Char.le_def] using digit

theorem isWordChar_of_isNumeralStart
    {c : Char}
    (starts : isNumeralStart c = true) :
    isWordChar c = true := by
  obtain digit | rfl : c.isDigit = true ∨ c = '-' := by simpa [isNumeralStart] using starts
  · simp [isWordChar, isContinue_of_isDigit digit]
  · rfl

/-- No numeral opens like a name. -/
theorem isStart_of_isNumeralStart
    {c : Char}
    (starts : isNumeralStart c = true) :
    Name.isStart c = false := by
  by_contra isStart
  rw [Bool.not_eq_false] at isStart
  obtain digit | rfl : c.isDigit = true ∨ c = '-' := by simpa [isNumeralStart] using starts
  · exact Bool.false_ne_true ((Name.isDigit_of_isStart isStart).symm.trans digit)
  · exact absurd isStart (by decide)

theorem isFloatMark_iff (c : Char) : isFloatMark c = true ↔ c = '.' ∨ c = 'e' ∨ c = 'E' := by
  simp [isFloatMark, or_assoc]

theorem isFloatMark_of_isNumeralStart
    {c : Char}
    (starts : isNumeralStart c = true) :
    isFloatMark c = false := by
  rw [← Bool.not_eq_true, isFloatMark_iff]
  rintro (rfl | rfl | rfl)
  all_goals exact absurd starts (by decide)

/-! ## Genuine lexemes -/

/-- The characters are those of an integer. -/
structure IsInteger (cs : List Char) : Prop where
  /-- There are some. -/
  notEmpty : cs ≠ []
  /-- They are digits and signs. -/
  chars : ∀ c ∈ cs, isNumeralStart c = true

/-- The characters are those of a float. -/
structure IsFloat (cs : List Char) : Prop where
  /-- The first of them is a digit or a sign. -/
  opens : cs.head?.any isNumeralStart = true
  /-- None of them ends a word. -/
  chars : ∀ c ∈ cs, isWordChar c = true
  /-- One of them is a point or the mark of an exponent. -/
  marked : ∃ c ∈ cs, isFloatMark c = true

/-- The lexeme can be read in some text. -/
def Lexeme.Genuine : Lexeme → Prop
  | .name text => Name.IsName text
  | .int text => IsInteger text.toList
  | .float text => IsFloat text.toList
  | .blockString value => Block.Trimmed value.toList
  | .punctuator _ | .string _ | .endOfText => True

namespace Lexer

/-- The digits that are read stand at the front of the text. -/
theorem digits_read
    {cs ds rest : List Char}
    (read : digits cs = .ok (ds, rest)) :
    cs = ds ++ rest ∧ ds ≠ [] ∧ ∀ d ∈ ds, d.isDigit = true := by
  rw [digits] at read
  split at read
  case isFalse => cases read
  case isTrue opens =>
    rw [List.span_eq_takeWhile_dropWhile] at read
    obtain ⟨rfl, rfl⟩ := Prod.mk.inj (Except.ok.inj read)
    refine ⟨List.takeWhile_append_dropWhile.symm, ?_,
      fun d present => List.all_eq_true.mp List.all_takeWhile d present⟩
    cases cs with
    | nil => cases opens
    | cons c cs =>
      have isDigit : c.isDigit = true := by simpa using opens
      simp [isDigit]

theorem integerPart_read
    {cs ds rest : List Char}
    (read : integerPart cs = .ok (ds, rest)) :
    cs = ds ++ rest ∧ ds ≠ [] ∧ ∀ d ∈ ds, d.isDigit = true := by
  rw [integerPart.eq_def] at read
  split at read
  · split at read
    · cases read
    · obtain ⟨rfl, rfl⟩ := Prod.mk.inj (Except.ok.inj read)
      exact ⟨rfl, by simp, by simp⟩
  · exact digits_read read

/-- What is behind the integer part is missing or holds the mark of a float. -/
def IsTail (cs : List Char) : Prop :=
  cs = [] ∨ (∀ c ∈ cs, isWordChar c = true) ∧ ∃ c ∈ cs, isFloatMark c = true

theorem isTail_cons
    {c : Char}
    {cs : List Char}
    (isMark : isFloatMark c = true)
    (chars : ∀ d ∈ cs, isWordChar d = true) :
    IsTail (c :: cs) := by
  have isChar : isWordChar c = true := by
    obtain rfl | rfl | rfl := (isFloatMark_iff c).mp isMark
    all_goals rfl
  exact .inr ⟨List.forall_mem_cons.mpr ⟨isChar, chars⟩, c, List.mem_cons_self, isMark⟩

theorem isWordChar_of_digits
    {ds : List Char}
    (areDigits : ∀ d ∈ ds, d.isDigit = true) :
    ∀ d ∈ ds, isWordChar d = true := fun d present => by
  simp [isWordChar, isContinue_of_isDigit (areDigits d present)]

theorem fractionPart_read
    {cs ds rest : List Char}
    (read : fractionPart cs = .ok (ds, rest)) :
    cs = ds ++ rest ∧ IsTail ds := by
  rw [fractionPart.eq_def] at read
  split at read
  · obtain ⟨⟨found, left⟩, readDigits, same⟩ := Outcome.bind_eq_ok_iff.mp read
    obtain ⟨rfl, rfl⟩ := Prod.mk.inj (Except.ok.inj same)
    obtain ⟨rfl, -, areDigits⟩ := digits_read readDigits
    exact ⟨rfl, isTail_cons rfl (isWordChar_of_digits areDigits)⟩
  · obtain ⟨rfl, rfl⟩ := Prod.mk.inj (Except.ok.inj read)
    exact ⟨rfl, .inl rfl⟩

theorem exponentPart_read
    {cs ds rest : List Char}
    (read : exponentPart cs = .ok (ds, rest)) :
    cs = ds ++ rest ∧ IsTail ds := by
  rw [exponentPart.eq_def] at read
  split at read
  case h_2 =>
    obtain ⟨rfl, rfl⟩ := Prod.mk.inj (Except.ok.inj read)
    exact ⟨rfl, .inl rfl⟩
  case h_1 c more =>
    split at read
    case isFalse =>
      obtain ⟨rfl, rfl⟩ := Prod.mk.inj (Except.ok.inj read)
      exact ⟨rfl, .inl rfl⟩
    case isTrue isExponent =>
      have isMark : isFloatMark c = true := by
        rw [isFloatMark_iff]
        exact .inr (by simpa using isExponent)
      split at read
      case h_2 => cases read
      case h_1 s more =>
        split at read
        case isTrue isSign =>
          obtain ⟨⟨found, left⟩, readDigits, same⟩ := Outcome.bind_eq_ok_iff.mp read
          obtain ⟨rfl, rfl⟩ := Prod.mk.inj (Except.ok.inj same)
          obtain ⟨rfl, -, areDigits⟩ := digits_read readDigits
          have isChar : isWordChar s = true := by
            obtain rfl | rfl : s = '+' ∨ s = '-' := by simpa using isSign
            all_goals rfl
          exact ⟨rfl, isTail_cons isMark
            (List.forall_mem_cons.mpr ⟨isChar, isWordChar_of_digits areDigits⟩)⟩
        case isFalse =>
          obtain ⟨⟨found, left⟩, readDigits, same⟩ := Outcome.bind_eq_ok_iff.mp read
          obtain ⟨rfl, rfl⟩ := Prod.mk.inj (Except.ok.inj same)
          obtain ⟨split, -, areDigits⟩ := digits_read readDigits
          exact ⟨congrArg (c :: ·) split, isTail_cons isMark (isWordChar_of_digits areDigits)⟩

theorem signPart_read (cs : List Char) : cs = (signPart cs).1 ++ (signPart cs).2 := by
  rw [signPart.eq_def]
  split <;> rfl

theorem IsTail.append
    {cs ds : List Char}
    (isTail : IsTail cs)
    (isTailToo : IsTail ds) :
    IsTail (cs ++ ds) := by
  obtain rfl | ⟨chars, c, present, isMark⟩ := isTail
  · exact isTailToo
  · refine .inr ⟨List.forall_mem_append.mpr ⟨chars, ?_⟩, c, List.mem_append_left _ present, isMark⟩
    obtain rfl | ⟨charsToo, -⟩ := isTailToo
    · nofun
    · exact charsToo

/-- An integer with a tail behind it is a float. -/
theorem isFloat_append
    {whole tail : List Char}
    (isInteger : IsInteger whole)
    (isTail : IsTail tail)
    (notEmpty : tail ≠ []) :
    IsFloat (whole ++ tail) := by
  obtain ⟨c, cs, rfl⟩ := List.exists_cons_of_ne_nil isInteger.notEmpty
  obtain ⟨chars, d, present, isMark⟩ := isTail.resolve_left notEmpty
  refine ⟨isInteger.chars c List.mem_cons_self, List.forall_mem_append.mpr ⟨?_, chars⟩, d,
    List.mem_append_right _ present, isMark⟩
  exact fun e among => isWordChar_of_isNumeralStart (isInteger.chars e among)

/-- A sign and digits make an integer. -/
theorem isInteger_append
    {cs whole : List Char}
    (notEmpty : whole ≠ [])
    (areDigits : ∀ d ∈ whole, d.isDigit = true) :
    IsInteger ((signPart cs).1 ++ whole) := by
  have signs : ∀ c ∈ (signPart cs).1, isNumeralStart c = true := by
    rw [signPart.eq_def]
    split
    · simp [isNumeralStart]
    · nofun
  refine ⟨by simp [notEmpty], List.forall_mem_append.mpr ⟨signs, fun d present => ?_⟩⟩
  simp [isNumeralStart, areDigits d present]

/-- A number stands at the front of the text that it is read from: an integer if no tail is
read behind its digits, and a float if one is. -/
theorem number_read
    {cs rest : List Char}
    {found : Lexeme}
    (read : number cs = .ok (found, rest)) :
    ∃ token, cs = token ++ rest ∧
      (IsInteger token ∧ found = .int (String.ofList token) ∨
        IsFloat token ∧ found = .float (String.ofList token)) := by
  rw [number] at read
  obtain ⟨⟨whole, afterWhole⟩, readWhole, read⟩ := Outcome.bind_eq_ok_iff.mp read
  obtain ⟨⟨fraction, afterFraction⟩, readFraction, read⟩ := Outcome.bind_eq_ok_iff.mp read
  obtain ⟨⟨exponent, afterExponent⟩, readExponent, read⟩ := Outcome.bind_eq_ok_iff.mp read
  obtain ⟨splitWhole, notEmpty, areDigits⟩ := integerPart_read readWhole
  obtain ⟨splitFraction, isFraction⟩ := fractionPart_read readFraction
  obtain ⟨splitExponent, isExponent⟩ := exponentPart_read readExponent
  have isInteger : IsInteger ((signPart cs).1 ++ whole) := isInteger_append notEmpty areDigits
  have split : cs = (signPart cs).1 ++ whole ++ (fraction ++ exponent) ++ afterExponent := by
    rw [List.append_assoc, List.append_assoc fraction, ← splitExponent, ← splitFraction,
      List.append_assoc, ← splitWhole]
    exact signPart_read cs
  dsimp only at read
  split at read
  case isTrue => cases read
  case isFalse =>
    obtain ⟨rfl, rfl⟩ := Prod.mk.inj (Except.ok.inj read)
    refine ⟨_, split, ?_⟩
    rw [List.append_assoc _ fraction]
    split
    case isTrue noTail =>
      obtain ⟨rfl, rfl⟩ : fraction = [] ∧ exponent = [] := by simpa using noTail
      exact .inl ⟨by simpa using isInteger, rfl⟩
    case isFalse hasTail =>
      have tailNotEmpty : fraction ++ exponent ≠ [] := by simpa using hasTail
      exact .inr ⟨isFloat_append isInteger (isFraction.append isExponent) tailNotEmpty, rfl⟩

/-- Every lexeme that is read is genuine. -/
theorem genuine_of_lexeme
    {cs rest : List Char}
    {found : Lexeme}
    (read : lexeme cs = .ok (found, rest)) :
    found.Genuine := by
  rw [lexeme.eq_def] at read
  split at read
  case h_1 =>
    obtain ⟨rfl, -⟩ := Prod.mk.inj (Except.ok.inj read)
    trivial
  case h_2 =>
    obtain ⟨⟨raw, left⟩, -, same⟩ := Outcome.bind_eq_ok_iff.mp read
    obtain ⟨rfl, -⟩ := Prod.mk.inj (Except.ok.inj same)
    simpa [Lexeme.Genuine] using Block.trimmed_value raw
  case h_3 =>
    obtain ⟨⟨value, left⟩, -, same⟩ := Outcome.bind_eq_ok_iff.mp read
    obtain ⟨rfl, -⟩ := Prod.mk.inj (Except.ok.inj same)
    trivial
  case h_4 =>
    obtain ⟨rfl, -⟩ := Prod.mk.inj (Except.ok.inj read)
    trivial
  case h_5 c cs _ _ _ =>
    split at read
    case h_1 =>
      obtain ⟨rfl, -⟩ := Prod.mk.inj (Except.ok.inj read)
      trivial
    case h_2 =>
      split_ifs at read with isNumeral isStart
      · obtain ⟨token, -, ⟨isInteger, rfl⟩ | ⟨isFloat, rfl⟩⟩ := number_read read
        · simpa [Lexeme.Genuine] using isInteger
        · simpa [Lexeme.Genuine] using isFloat
      · rw [List.span_eq_takeWhile_dropWhile] at read
        obtain ⟨rfl, -⟩ := Prod.mk.inj (Except.ok.inj read)
        simp [Lexeme.Genuine, Name.IsName, Name.isName, isStart, List.all_takeWhile]

end Lexer

/-- A document that a text stands for is drawn from genuine lexemes. -/
theorem Document.genuine_of_parse
    {text : String}
    {document : Document}
    (parsed : parse text = .ok document) :
    document.Drawn Lexeme.Genuine := by
  have areGenuine := forall_mem_lexed
    (fun _ _ _ read _ => Lexer.genuine_of_lexeme read) text.toList
  exact (drawn_of_parse areGenuine (fun _ => trivial) parsed).2

end Source
end GraphQL
