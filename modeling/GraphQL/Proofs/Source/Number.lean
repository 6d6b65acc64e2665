import GraphQL.Proofs.Source.Spelling

/-!
# Number tokens

A number token is a sign, a whole part, a fraction and an exponent, of which only the
whole part is always there.  Where the four parts are of the right form, the lexer
reads them as one token before any text that they do not run into: an integer if
there is neither a fraction nor an exponent, and a float otherwise.
-/

namespace GraphQL
namespace Source
namespace Lexer

open Outcome

/-! ## The parts of a number -/

/-- At least one digit, and nothing else. -/
def AreDigits (ds : List Char) : Prop :=
  ds ≠ [] ∧ ∀ d ∈ ds, d.isDigit = true

/-- Digits without a superfluous zero in front. -/
def IsWhole (ds : List Char) : Prop :=
  AreDigits ds ∧ (ds.head? = some '0' → ds = ['0'])

/-- A point and digits, or nothing. -/
inductive IsFraction : List Char → Prop
  | absent : IsFraction []
  | digits {ds : List Char} (areDigits : AreDigits ds) : IsFraction ('.' :: ds)

/-- A mark, perhaps a sign, and digits, or nothing. -/
inductive IsExponent : List Char → Prop
  | absent : IsExponent []
  | digits {mark sign : Char} {ds : List Char}
      (isMark : mark = 'e' ∨ mark = 'E')
      (isSign : sign = '+' ∨ sign = '-')
      (areDigits : AreDigits ds) :
      IsExponent (mark :: sign :: ds)
  | unsigned {mark : Char} {ds : List Char}
      (isMark : mark = 'e' ∨ mark = 'E')
      (areDigits : AreDigits ds) :
      IsExponent (mark :: ds)

/-- The text does not carry on digits. -/
def EndsDigits (cs : List Char) : Prop :=
  ∀ c, cs.head? = some c → c.isDigit = false

theorem isDigit_of_isBreak
    {c : Char}
    (breaks : isBreak c = true) :
    c.isDigit = false ∧ c ≠ '.' ∧ Text.Name.isStart c = false := by
  simp only [isBreak, Text.Name.isContinue, Bool.not_eq_true', Bool.or_eq_false_iff,
    decide_eq_false_iff_not] at breaks
  obtain ⟨⟨⟨notStart, notDigit⟩, notPoint⟩, _⟩ := breaks
  refine ⟨?_, notPoint, notStart⟩
  simpa [Char.isDigit, Char.le_def] using notDigit

theorem endsDigits_of_broken
    {rest : List Char}
    (broken : Broken rest) :
    EndsDigits rest :=
  fun c front => (isDigit_of_isBreak (broken c front)).1

/-- An exponent begins with its mark. -/
theorem IsExponent.eq_nil_or_head?
    {exponent : List Char}
    (isExponent : IsExponent exponent) :
    exponent = [] ∨ ∃ mark more, exponent = mark :: more ∧ (mark = 'e' ∨ mark = 'E') := by
  cases isExponent with
  | absent => exact .inl rfl
  | digits isMark => exact .inr ⟨_, _, rfl, isMark⟩
  | unsigned isMark => exact .inr ⟨_, _, rfl, isMark⟩

theorem IsExponent.endsDigits
    {exponent rest : List Char}
    (isExponent : IsExponent exponent)
    (ends : EndsDigits rest) :
    EndsDigits (exponent ++ rest) := by
  obtain rfl | ⟨mark, more, rfl, isMark⟩ := isExponent.eq_nil_or_head?
  · exact ends
  · intro c front
    simp only [List.cons_append, List.head?_cons, Option.some.injEq] at front
    subst front
    rcases isMark with rfl | rfl <;> rfl

theorem IsFraction.endsDigits
    {fraction rest : List Char}
    (isFraction : IsFraction fraction)
    (ends : EndsDigits rest) :
    EndsDigits (fraction ++ rest) := by
  cases isFraction with
  | absent => exact ends
  | digits areDigits =>
    intro c front
    simp only [List.cons_append, List.head?_cons, Option.some.injEq] at front
    subst front
    rfl

/-! ## Reading the parts -/

theorem digits_append
    {ds rest : List Char}
    (areDigits : AreDigits ds)
    (ends : EndsDigits rest) :
    digits (ds ++ rest) = .ok (ds, rest) := by
  obtain ⟨nonempty, all⟩ := areDigits
  have stops : rest.takeWhile Char.isDigit = [] ∧ rest.dropWhile Char.isDigit = rest := by
    cases rest with
    | nil => simp
    | cons c cs => simp [ends c rfl]
  obtain ⟨d, more, rfl⟩ := List.exists_cons_of_ne_nil nonempty
  have opens : ((d :: more) ++ rest).head?.any Char.isDigit = true := by
    simpa using all d (by simp)
  rw [digits, if_pos opens, List.span_eq_takeWhile_dropWhile,
    List.takeWhile_append_of_pos all, List.dropWhile_append_of_pos all, stops.1, stops.2,
    List.append_nil]

theorem integerPart_append
    {ds rest : List Char}
    (isWhole : IsWhole ds)
    (ends : EndsDigits rest) :
    integerPart (ds ++ rest) = .ok (ds, rest) := by
  obtain ⟨areDigits, noZero⟩ := isWhole
  obtain ⟨d, more, rfl⟩ := List.exists_cons_of_ne_nil areDigits.1
  by_cases zero : d = '0'
  · subst zero
    obtain rfl : more = [] := by simpa using noZero rfl
    have ended : rest.head?.any Char.isDigit = false := by
      cases rest with
      | nil => rfl
      | cons c cs => simpa using ends c rfl
    simp [integerPart, ended]
  · unfold integerPart
    split
    · next same => exact absurd (List.cons.inj same).1 zero
    · exact digits_append areDigits ends

theorem fractionPart_append
    {fraction rest : List Char}
    (isFraction : IsFraction fraction)
    (ends : EndsDigits rest)
    (noPoint : rest.head? ≠ some '.') :
    fractionPart (fraction ++ rest) = .ok (fraction, rest) := by
  cases isFraction with
  | absent =>
    unfold fractionPart
    split
    · next same => simp at same; simp [same] at noPoint
    · rfl
  | digits areDigits =>
    simp [fractionPart, digits_append areDigits ends, ok_bind, pure, Except.pure]

theorem exponentPart_append
    {exponent rest : List Char}
    (isExponent : IsExponent exponent)
    (ends : EndsDigits rest)
    (noMark : rest.head? ≠ some 'e' ∧ rest.head? ≠ some 'E') :
    exponentPart (exponent ++ rest) = .ok (exponent, rest) := by
  cases isExponent with
  | absent =>
    cases rest with
    | nil => rfl
    | cons c cs =>
      have notMark : ¬(c = 'e' ∨ c = 'E') := by simpa using noMark
      simp [exponentPart, notMark]
  | digits isMark isSign areDigits =>
    simp [exponentPart, isMark, isSign, digits_append areDigits ends, ok_bind, pure,
      Except.pure]
  | unsigned isMark areDigits =>
    obtain ⟨d, more, rfl⟩ := List.exists_cons_of_ne_nil areDigits.1
    have noSign : ¬(d = '+' ∨ d = '-') := by
      rintro (rfl | rfl)
      all_goals exact absurd (areDigits.2 _ List.mem_cons_self) (by decide)
    have read := digits_append areDigits ends
    rw [List.cons_append] at read
    simp [exponentPart, isMark, noSign, read, ok_bind, pure, Except.pure]

/-! ## Numbers -/

/-- The sign of a number, if it has one. -/
def signChars (negative : Bool) : List Char :=
  if negative then ['-'] else []

theorem signPart_append
    {whole : List Char}
    (negative : Bool)
    (isWhole : IsWhole whole)
    (rest : List Char) :
    signPart (signChars negative ++ (whole ++ rest)) = (signChars negative, whole ++ rest) := by
  obtain ⟨d, more, rfl⟩ := List.exists_cons_of_ne_nil isWhole.1.1
  have notMinus : d ≠ '-' := by
    rintro rfl
    exact absurd (isWhole.1.2 '-' (by simp)) (by decide)
  cases negative with
  | true => rfl
  | false => simp [signChars, signPart, notMinus]

/-- A number in front of a text that it does not run into is read as a whole. -/
theorem number_append
    {whole fraction exponent rest : List Char}
    (negative : Bool)
    (isWhole : IsWhole whole)
    (isFraction : IsFraction fraction)
    (isExponent : IsExponent exponent)
    (broken : Broken rest) :
    number (signChars negative ++ (whole ++ (fraction ++ (exponent ++ rest)))) =
      let text := String.ofList (signChars negative ++ whole ++ fraction ++ exponent)
      .ok (if fraction.isEmpty && exponent.isEmpty then .int text else .float text, rest) := by
  have ends := endsDigits_of_broken broken
  have endsAfterFraction := isExponent.endsDigits ends
  have endsAfterWhole := isFraction.endsDigits endsAfterFraction
  have noPoint : (exponent ++ rest).head? ≠ some '.' := by
    obtain rfl | ⟨mark, more, rfl, isMark⟩ := isExponent.eq_nil_or_head?
    · intro front
      exact (isDigit_of_isBreak (broken '.' front)).2.1 rfl
    · rcases isMark with rfl | rfl <;> simp
  have noMark : ∀ mark, Text.Name.isStart mark = true → rest.head? ≠ some mark := by
    intro mark start front
    have notStart := (isDigit_of_isBreak (broken mark front)).2.2
    rw [start] at notStart
    exact Bool.noConfusion notStart
  have apart : (rest.head?.any fun c => c = '.' || Text.Name.isStart c) = false := by
    cases rest with
    | nil => rfl
    | cons c cs =>
      obtain ⟨-, notPoint, notStart⟩ := isDigit_of_isBreak (broken c rfl)
      simp [notPoint, notStart]
  rw [number, signPart_append negative isWhole]
  simp only [integerPart_append isWhole endsAfterWhole,
    fractionPart_append isFraction endsAfterFraction noPoint,
    exponentPart_append isExponent ends ⟨noMark 'e' rfl, noMark 'E' rfl⟩, ok_bind, apart]
  rfl

theorem ofChar?_of_isDigit
    {c : Char}
    (digit : c.isDigit = true) :
    Punctuator.ofChar? c = none := by
  have other : ∀ d, d.isDigit = false → ¬c = d := by
    rintro d notDigit rfl
    exact Bool.false_ne_true (notDigit.symm.trans digit)
  simp (disch := decide) only [Punctuator.ofChar?, other, if_false]

/-- A sign, a whole part, and a fraction or an exponent or both. -/
def IsFloatValue (cs : List Char) : Prop :=
  ∃ negative whole fraction exponent,
    IsWhole whole ∧ IsFraction fraction ∧ IsExponent exponent ∧
      (fraction ≠ [] ∨ exponent ≠ []) ∧
      cs = signChars negative ++ whole ++ fraction ++ exponent

/-- A text that begins with a digit or a minus sign begins with a number. -/
theorem lexeme_eq_number
    {c : Char}
    (opens : c.isDigit = true ∨ c = '-')
    (cs : List Char) :
    lexeme (c :: cs) = number (c :: cs) ∧ skipIgnored false (c :: cs) = c :: cs := by
  have other : ∀ d, (d.isDigit || d = '-') = false → ¬c = d := by
    rintro d apart rfl
    rcases opens with digit | rfl
    · simp [digit] at apart
    · simp at apart
  have notPunctuator : Punctuator.ofChar? c = none := by
    rcases opens with digit | rfl
    · exact ofChar?_of_isDigit digit
    · rfl
  constructor
  · unfold lexeme
    split
    · next same => simp at same
    · next same => exact absurd (List.cons.inj same).1 (other _ (by decide))
    · next same => exact absurd (List.cons.inj same).1 (other _ (by decide))
    · next same => exact absurd (List.cons.inj same).1 (other _ (by decide))
    · next same =>
      obtain ⟨rfl, rfl⟩ := List.cons.inj same
      simp [notPunctuator, opens]
  · simp (disch := decide) only [skipIgnored, isIgnored, other, decide_false, Bool.or_false,
      Bool.false_eq_true, if_false]

end Lexer

/-- A text made of the parts of a number is read as one number, up to what breaks it off. -/
theorem lexeme_of_parts
    {text : String}
    {whole fraction exponent rest : List Char}
    (negative : Bool)
    (isWhole : Lexer.IsWhole whole)
    (isFraction : Lexer.IsFraction fraction)
    (isExponent : Lexer.IsExponent exponent)
    (chars : text.toList = Lexer.signChars negative ++ whole ++ fraction ++ exponent)
    (broken : Broken rest) :
    Lexer.lexeme (text.toList ++ rest) =
        .ok (if fraction.isEmpty && exponent.isEmpty then .int text else .float text, rest) ∧
      Lexer.skipIgnored false (text.toList ++ rest) = text.toList ++ rest := by
  have read := Lexer.number_append negative isWhole isFraction isExponent broken
  rw [← chars, String.ofList_toList] at read
  have regrouped : text.toList ++ rest =
      Lexer.signChars negative ++ (whole ++ (fraction ++ (exponent ++ rest))) := by
    simp [chars]
  rw [← regrouped] at read
  obtain ⟨c, cs, front, opens⟩ :
      ∃ c cs, text.toList ++ rest = c :: cs ∧ (c.isDigit = true ∨ c = '-') := by
    obtain ⟨d, more, rfl⟩ := List.exists_cons_of_ne_nil isWhole.1.1
    rw [regrouped]
    cases negative with
    | true => exact ⟨_, _, rfl, .inr rfl⟩
    | false => exact ⟨_, _, rfl, .inl (isWhole.1.2 d (by simp))⟩
  obtain ⟨isNumber, front'⟩ := Lexer.lexeme_eq_number opens cs
  rw [front] at read ⊢
  exact ⟨isNumber.trans read, front'⟩

/-- A text made of the parts of a number spells one number token. -/
theorem spells_number
    {text : String}
    {whole fraction exponent : List Char}
    (negative : Bool)
    (isWhole : Lexer.IsWhole whole)
    (isFraction : Lexer.IsFraction fraction)
    (isExponent : Lexer.IsExponent exponent)
    (chars : text.toList = Lexer.signChars negative ++ whole ++ fraction ++ exponent) :
    Spells text
      (.of [if fraction.isEmpty && exponent.isEmpty then .int text else .float text]) := by
  intro rest broken
  obtain ⟨read, front⟩ := lexeme_of_parts negative isWhole isFraction isExponent chars broken
  exact lexed_of_lexeme front read (by split <;> simp)

/-- A number with a fraction or an exponent is read as one float, up to what breaks it off. -/
theorem lexeme_floatValue
    {text : String}
    {rest : List Char}
    (isFloatValue : Lexer.IsFloatValue text.toList)
    (broken : Broken rest) :
    Lexer.lexeme (text.toList ++ rest) = .ok (.float text, rest) ∧
      Lexer.skipIgnored false (text.toList ++ rest) = text.toList ++ rest := by
  obtain ⟨negative, whole, fraction, exponent, isWhole, isFraction, isExponent, shown, parts⟩ :=
    isFloatValue
  have notInteger : (fraction.isEmpty && exponent.isEmpty) = false := by
    simpa [List.isEmpty_eq_false_iff, imp_iff_not_or] using shown
  simpa [notInteger] using lexeme_of_parts negative isWhole isFraction isExponent parts broken

/-- A number with a fraction or an exponent spells one float token. -/
theorem spells_floatValue
    {text : String}
    (isFloatValue : Lexer.IsFloatValue text.toList) :
    Spells text (.of [.float text]) := by
  intro rest broken
  obtain ⟨read, front⟩ := lexeme_floatValue isFloatValue broken
  exact lexed_of_lexeme front read (by simp)

end Source
end GraphQL
