import GraphQL.Proofs.Outcome
import GraphQL.Proofs.Request.Typed
import GraphQL.Proofs.Source.Number
import GraphQL.Request.Numeral
import Mathlib.Data.List.Basic
import Mathlib.Tactic.IntervalCases

/-!
# Numerals are number tokens

Every numeral that a request writes is one number token.  A whole number is an
integer token, and whatever number is written with a fraction is a float token:
where the plain text shows neither a point nor an exponent, a fraction of zero is
added.
-/

namespace GraphQL
namespace Numeral

open Number Outcome Source Source.Lexer

/-! ## Digits -/

theorem areDigits_digits (n : Nat) : AreDigits (Decimal.digits n) :=
  ⟨Nat.toDigits_ne_nil, fun _ present =>
    Nat.isDigit_of_mem_toDigits (by decide) (by decide) present⟩

/-- The digits of a positive number do not begin with zero. -/
theorem head?_digits_ne_zero
    {n : Nat}
    (positive : 0 < n) :
    (Decimal.digits n).head? ≠ some '0' := by
  unfold Decimal.digits
  induction n using Nat.strongRecOn with
  | ind n noZero =>
    by_cases small : n < 10
    · interval_cases n <;> decide
    · have fewer := noZero (n / 10) (by omega) (by omega)
      rw [Nat.toDigits_of_base_le (by decide) (by omega), List.head?_append]
      cases front : (Nat.toDigits 10 (n / 10)).head? with
      | none => simp [Nat.toDigits_ne_nil] at front
      | some d => simpa [front] using fewer

theorem isWhole_digits (n : Nat) : IsWhole (Decimal.digits n) := by
  refine ⟨areDigits_digits n, ?_⟩
  intro zero
  rcases Nat.eq_zero_or_pos n with rfl | positive
  · rfl
  · exact absurd zero (head?_digits_ne_zero positive)

theorem areDigits_append
    {ds more : List Char}
    (areDigits : AreDigits ds)
    (digits : ∀ d ∈ more, d.isDigit = true) :
    AreDigits (ds ++ more) := by
  refine ⟨by simp [areDigits.1], ?_⟩
  intro d present
  rcases List.mem_append.mp present with first | second
  · exact areDigits.2 d first
  · exact digits d second

theorem isDigit_of_mem_zeros
    {count : Nat}
    {d : Char}
    (present : d ∈ List.replicate count '0') :
    d.isDigit = true := by
  obtain ⟨-, rfl⟩ := List.mem_replicate.mp present
  rfl

/-! ## Texts of numbers -/

/-- The text is a sign, a whole part, a fraction and an exponent. -/
def IsNumeral (cs : List Char) : Prop :=
  ∃ negative whole fraction exponent,
    IsWhole whole ∧ IsFraction fraction ∧ IsExponent exponent ∧
      cs = signChars negative ++ whole ++ fraction ++ exponent

/-- A point among digits, or before them, makes a whole part and a fraction. -/
theorem exists_pointAfter
    {ds : List Char}
    (whole : Int)
    (isWhole : IsWhole ds)
    (inside : whole < ds.length) :
    ∃ front fraction, IsWhole front ∧ IsFraction fraction ∧
      Decimal.pointAfter whole ds = front ++ fraction := by
  obtain ⟨areDigits, noZero⟩ := isWhole
  unfold Decimal.pointAfter
  split_ifs with leading
  · refine ⟨['0'], '.' :: (List.replicate whole.natAbs '0' ++ ds), ?_, .digits ?_, rfl⟩
    · exact ⟨⟨by simp, by simp⟩, fun _ => rfl⟩
    · refine ⟨by simp [areDigits.1], ?_⟩
      intro d present
      rcases List.mem_append.mp present with zero | digit
      · exact isDigit_of_mem_zeros zero
      · exact areDigits.2 d digit
  · obtain ⟨d, more, rfl⟩ := List.exists_cons_of_ne_nil areDigits.1
    obtain ⟨count, rfl⟩ : ∃ count : Nat, whole = (count + 1 : Nat) :=
      ⟨whole.toNat - 1, by omega⟩
    simp only [List.length_cons, Int.toNat_natCast] at inside ⊢
    refine ⟨d :: more.take count, '.' :: more.drop count, ?_, .digits ?_, rfl⟩
    · refine ⟨⟨by simp, ?_⟩, ?_⟩
      · intro c present
        rcases List.mem_cons.mp present with rfl | taken
        · exact areDigits.2 _ (by simp)
        · exact areDigits.2 c (by simp [List.mem_of_mem_take taken])
      · intro zero
        have alone := noZero (by simpa using zero)
        simp only [List.cons.injEq] at alone
        simp [alone]
    · refine ⟨by simp; omega, ?_⟩
      intro c present
      exact areDigits.2 c (by simp [List.mem_of_mem_drop present])

/-- Digits with a point after the first of them, unless there is only one. -/
theorem exists_scientific
    {ds : List Char}
    (isWhole : IsWhole ds) :
    ∃ front fraction, IsWhole front ∧ IsFraction fraction ∧
      (if ds.length = 1 then ds else Decimal.pointAfter 1 ds) = front ++ fraction := by
  split_ifs with single
  · exact ⟨ds, [], isWhole, .absent, by simp⟩
  · have positive : 0 < ds.length := List.length_pos_iff.mpr isWhole.1.1
    exact exists_pointAfter _ isWhole (by omega)

/-- However a coefficient and a power of ten are laid out, the text is a whole part, a fraction
and an exponent. -/
theorem exists_magnitudeText (coefficient : Nat) (exponent : Int) :
    ∃ whole fraction shown, IsWhole whole ∧ IsFraction fraction ∧ IsExponent shown ∧
      Decimal.magnitudeText coefficient exponent = whole ++ fraction ++ shown := by
  have isWhole := isWhole_digits coefficient
  obtain ⟨scientific, scientificFraction, isScientific, isScientificFraction, scientificParts⟩ :=
    exists_scientific isWhole
  simp only [Decimal.magnitudeText, scientificParts]
  split_ifs with plain zero
  · exact ⟨_, [], [], isWhole, .absent, .absent, by simp⟩
  · simp only [Bool.and_eq_true, decide_eq_true_eq] at plain
    obtain ⟨front, fraction, isFront, isFraction, parts⟩ :=
      exists_pointAfter ((Decimal.digits coefficient).length + exponent) isWhole
        (by omega)
    exact ⟨front, fraction, [], isFront, isFraction, .absent, by simp [parts]⟩
  · refine ⟨scientific, scientificFraction,
      'E' :: Decimal.signedText (Decimal.adjusted coefficient exponent), isScientific,
      isScientificFraction, .digits (.inr rfl) ?_ (areDigits_digits _), rfl⟩
    split_ifs <;> simp

theorem isNumeral_decimal
    (negative : Bool)
    (coefficient : Nat)
    (exponent : Int) :
    IsNumeral (Decimal.finite negative coefficient exponent).text.toList := by
  obtain ⟨whole, fraction, shown, isWhole, isFraction, isExponent, parts⟩ :=
    exists_magnitudeText coefficient exponent
  exact ⟨negative, whole, fraction, shown, isWhole, isFraction, isExponent, by
    simp [Decimal.text, parts, Decimal.signText, signChars]⟩

/-! ## Binary numbers -/

/-- A number in an interval above zero is positive. -/
theorem pos_of_contains
    {interval : Shortest.Interval}
    {n : Nat}
    (above : 0 < interval.low)
    (contained : interval.contains n = true) :
    0 < n := by
  rcases Nat.eq_zero_or_pos n with rfl | positive
  · simp only [Shortest.Interval.contains, Nat.zero_mul] at contained
    split_ifs at contained
    · simp at contained
      omega
    · simp at contained
  · exact positive

theorem contains_of_nearest?
    {interval : Shortest.Interval}
    {n : Nat}
    (nearest : interval.nearest? = some n) :
    interval.contains n = true := by
  unfold Shortest.Interval.nearest? at nearest
  dsimp only at nearest
  split at nearest
  · next below above =>
    split_ifs at nearest <;> (obtain rfl := Option.some.inj nearest; assumption)
  · next below _ => obtain rfl := Option.some.inj nearest; exact below
  · next _ above => obtain rfl := Option.some.inj nearest; exact above
  · simp at nearest

/-- What is found on some grid in an interval above zero is positive. -/
theorem pos_of_search
    {interval : Shortest.Interval}
    {power found : Int}
    {count coefficient : Nat}
    (above : 0 < interval.low)
    (searched : Shortest.search interval power count = some (coefficient, found)) :
    0 < coefficient := by
  induction count generalizing power with
  | zero => simp [Shortest.search] at searched
  | succ count further =>
    unfold Shortest.search at searched
    split at searched
    · next n nearest =>
      simp only [Option.some.injEq, Prod.mk.injEq] at searched
      rw [← searched.1]
      refine pos_of_contains ?_ (contains_of_nearest? nearest)
      simpa [Shortest.Interval.divide] using above
    · exact further searched

/-- The shortest decimal of a positive number does not begin with zero, unless it is
a single zero. -/
theorem isWhole_shortest
    {significand : Nat}
    (positive : 0 < significand)
    (exponent : Int)
    (narrowBelow : Bool) :
    let (coefficient, power) := Shortest.shortest significand exponent narrowBelow
    0 < coefficient ∨ power = 0 := by
  unfold Shortest.shortest
  cases searched : Shortest.search (Shortest.Interval.ofBinary significand exponent narrowBelow)
      (Shortest.topPower significand exponent) Shortest.grids with
  | none => exact .inr rfl
  | some found =>
    obtain ⟨coefficient, power⟩ := found
    refine .inl (pos_of_search ?_ searched)
    have scale : 0 < 2 ^ (exponent - 2).toNat := Nat.pow_pos (by decide)
    simp only [Shortest.Interval.ofBinary]
    exact Nat.mul_pos (by split_ifs <;> omega) scale

theorem areDigits_exponentText (lead : Int) :
    ∃ sign ds, (sign = '+' ∨ sign = '-') ∧ AreDigits ds ∧
      Binary64.exponentText lead = 'e' :: sign :: ds := by
  have areDigits := areDigits_digits lead.natAbs
  refine ⟨_, _, ?_, ?_, rfl⟩
  · split_ifs <;> simp
  · split_ifs
    · refine ⟨by simp, ?_⟩
      intro d present
      rcases List.mem_cons.mp present with rfl | digit
      · rfl
      · exact areDigits.2 d digit
    · exact areDigits

/-- The layout of a coefficient and a power is a numeral with a fraction or an
exponent, unless zeros would follow a single zero. -/
theorem exists_layout
    {coefficient : Nat}
    {power : Int}
    (noZeros : 0 < coefficient ∨ power = 0) :
    ∃ whole fraction exponent, IsWhole whole ∧ IsFraction fraction ∧ IsExponent exponent ∧
      Binary64.layout coefficient power = whole ++ fraction ++ exponent := by
  have isWhole := isWhole_digits coefficient
  obtain ⟨scientific, scientificFraction, isScientific, isScientificFraction, scientificParts⟩ :=
    exists_scientific isWhole
  simp only [Binary64.layout, scientificParts]
  split_ifs with plain upward
  · refine ⟨Decimal.digits coefficient ++ List.replicate power.toNat '0', ['.', '0'], [],
      ⟨areDigits_append isWhole.1 fun _ => isDigit_of_mem_zeros, ?_⟩,
      .digits ⟨by simp, by simp⟩, .absent, by simp⟩
    rcases noZeros with positive | rfl
    · intro zero
      obtain ⟨d, more, digits⟩ := List.exists_cons_of_ne_nil isWhole.1.1
      have notZero := head?_digits_ne_zero positive
      simp only [digits, List.cons_append, List.head?_cons] at zero notZero
      exact absurd zero notZero
    · simpa using isWhole.2
  · obtain ⟨front, fraction, isFront, isFraction, parts⟩ :=
      exists_pointAfter ((Decimal.digits coefficient).length + power) isWhole (by omega)
    exact ⟨front, fraction, [], isFront, isFraction, .absent, by simpa using parts⟩
  · obtain ⟨sign, ds, isSign, areDigits, exponent⟩ :=
      areDigits_exponentText (Decimal.adjusted coefficient power)
    exact ⟨scientific, scientificFraction, 'e' :: sign :: ds, isScientific,
      isScientificFraction, .digits (.inl rfl) isSign areDigits, by rw [exponent]⟩

theorem isNumeral_binary
    {x : Binary64}
    (finite : x.isFinite = true) :
    IsNumeral x.text.toList := by
  unfold Binary64.isFinite at finite
  unfold Binary64.text
  split at finite
  · next significand exponent narrowBelow viewed =>
    simp only [viewed, String.toList_ofList]
    have noZeros : 0 < (if significand = 0 then ((0, 0) : Nat × Int)
          else Shortest.shortest significand exponent narrowBelow).1 ∨
        (if significand = 0 then ((0, 0) : Nat × Int)
          else Shortest.shortest significand exponent narrowBelow).2 = 0 := by
      split_ifs with zero
      · exact .inr rfl
      · exact isWhole_shortest (Nat.pos_of_ne_zero zero) exponent narrowBelow
    obtain ⟨whole, fraction, shownExponent, isWhole, isFraction, isExponent, parts⟩ :=
      exists_layout noZeros
    exact ⟨x.negative, whole, fraction, shownExponent, isWhole, isFraction, isExponent, by
      simp [parts, Decimal.signText, signChars]⟩
  · simp at finite

/-! ## Numerals in a request -/

/-- The text of an integer spells an integer token. -/
theorem spells_int (n : Int) : Spells (toString n) (.of [.int (toString n)]) := by
  have parts : (toString n).toList =
      signChars (decide (n < 0)) ++ Decimal.digits n.natAbs ++ [] ++ [] := by
    cases n with
    | ofNat n => simp [signChars, Decimal.digits, toString, Int.repr]
    | negSucc n => simp [signChars, Decimal.digits, toString, Int.repr]
  simpa using spells_number (decide (n < 0)) (isWhole_digits n.natAbs) .absent .absent parts

theorem showsFraction_of_parts
    {text : String}
    {negative : Bool}
    {whole fraction exponent : List Char}
    (isWhole : IsWhole whole)
    (isFraction : IsFraction fraction)
    (isExponent : IsExponent exponent)
    (parts : text.toList = signChars negative ++ whole ++ fraction ++ exponent) :
    showsFraction text = !(fraction.isEmpty && exponent.isEmpty) := by
  have plainSign : ∀ c ∈ signChars negative, ¬(c = '.' ∨ c = 'e' ∨ c = 'E') := by
    cases negative <;> simp [signChars]
  have plainWhole : ∀ c ∈ whole, ¬(c = '.' ∨ c = 'e' ∨ c = 'E') := by
    rintro c present (rfl | rfl | rfl) <;> exact absurd (isWhole.1.2 _ present) (by decide)
  unfold showsFraction
  rw [parts]
  cases isFraction with
  | digits areDigits => simp
  | absent =>
    obtain rfl | ⟨mark, more, rfl, isMark⟩ := isExponent.eq_nil_or_head?
    · simp only [List.append_nil, List.any_append, List.isEmpty_nil, Bool.and_self, Bool.not_true,
        Bool.or_eq_false_iff, List.any_eq_false]
      constructor
      · intro c present
        simpa [or_assoc] using plainSign c present
      · intro c present
        simpa [or_assoc] using plainWhole c present
    · rcases isMark with rfl | rfl <;> simp

/-- A numeral, with a fraction of zero where no fraction shows, is a number with a fraction
or an exponent. -/
theorem isFloatValue_withFraction
    {text : String}
    (isNumeral : IsNumeral text.toList) :
    IsFloatValue (withFraction text).toList := by
  obtain ⟨negative, whole, fraction, exponent, isWhole, isFraction, isExponent, parts⟩ := isNumeral
  have shows := showsFraction_of_parts isWhole isFraction isExponent parts
  unfold withFraction
  split_ifs with showing
  · refine ⟨negative, whole, fraction, exponent, isWhole, isFraction, isExponent, ?_, parts⟩
    rw [shows, Bool.not_eq_true', Bool.and_eq_false_iff] at showing
    simpa only [List.isEmpty_eq_false_iff] using showing
  · have plain : fraction = [] ∧ exponent = [] := by simpa [shows] using showing
    obtain ⟨rfl, rfl⟩ := plain
    have zero : AreDigits ['0'] := ⟨by simp, by simp⟩
    exact ⟨negative, whole, ['.', '0'], [], isWhole, .digits zero, .absent, .inl (by simp), by
      simp [parts]⟩

theorem spells_withFraction
    {text : String}
    (isNumeral : IsNumeral text.toList) :
    Spells (withFraction text) (.of [.float (withFraction text)]) :=
  spells_floatValue (isFloatValue_withFraction isNumeral)

/-- What is written for a number with a fraction spells a float token. -/
theorem spells_fractional
    {given : Datum}
    {text : String}
    (isNumber : (∃ x, given = .float x) ∨ ∃ x, given = .decimal x)
    (written : fractional given = .ok text) :
    Spells text (.of [.float text]) := by
  rcases isNumber with ⟨x, rfl⟩ | ⟨x, rfl⟩
  · simp only [fractional] at written
    split_ifs at written with finite
    obtain rfl := Except.ok.inj written
    exact spells_withFraction (isNumeral_binary finite)
  · simp only [fractional] at written
    split_ifs at written with finite
    obtain rfl := Except.ok.inj written
    cases x with
    | finite negative coefficient exponent =>
      exact spells_withFraction (isNumeral_decimal negative coefficient exponent)
    | infinity negative => simp [Decimal.isFinite] at finite
    | nan negative signaling payload serial => simp [Decimal.isFinite] at finite

/-! ## When there is a numeral -/

/-- The numbers that are too long start at a power of ten. -/
theorem isLong_iff (n : Int) :
    Whole.isLong n = true ↔ 10 ^ Whole.mostDigits ≤ n.natAbs := by
  have few : (Decimal.digits n.natAbs).length ≤ Whole.mostDigits ↔
      n.natAbs < 10 ^ Whole.mostDigits := Nat.length_toDigits_le_iff (by decide) (by decide)
  rw [Whole.isLong, decide_eq_true_iff, ← not_le, few, not_lt]

/-- The least number that is too long. -/
theorem isLong_power : Whole.isLong (10 ^ Whole.mostDigits) = true := by
  simp only [isLong_iff, Int.natAbs_pow, Int.reduceAbs, le_refl]

/-- A whole number has a numeral exactly if it is not too long. -/
theorem whole_of_asInt?
    {given : Datum}
    {n : Int}
    (isInt : given.asInt? = some n) :
    whole given = if Whole.isLong n then .error .tooLongToWrite else .ok (toString n) := by
  have read : toInt given = .ok n := by
    unfold toInt
    split <;> simp_all [Datum.asInt?]
  rw [whole, read, ok_bind, decimal]

/-- The numeral of a whole number is its text. -/
theorem eq_of_whole
    {given : Datum}
    {n : Int}
    {text : String}
    (isInt : given.asInt? = some n)
    (numeral : whole given = .ok text) :
    text = toString n := by
  rw [whole_of_asInt? isInt] at numeral
  split_ifs at numeral
  exact (Except.ok.inj numeral).symm

/-- A binary number has a numeral exactly if it is finite. -/
theorem fractional_float (x : Binary64) :
    fractional (.float x) =
      if x.isFinite then .ok (withFraction x.text) else .error (.noLiteral x.text) := rfl

/-- A decimal number has a numeral exactly if it is finite. -/
theorem fractional_decimal (x : Decimal) :
    fractional (.decimal x) =
      if x.isFinite then .ok (withFraction x.text) else .error (.noLiteral x.text) := rfl

theorem isUnprintable_int
    {given : Datum}
    {n : Int}
    (isInt : given.asInt? = some n) :
    (Datum.intValue given).isUnprintable = (fault? (whole given)).isSome := by
  rw [Datum.isUnprintable, isInt, Option.any_some, whole_of_asInt? isInt]
  cases Whole.isLong n <;> rfl

theorem isUnprintable_float (x : Binary64) :
    (Datum.floatValue (.float x)).isUnprintable = (fault? (fractional (.float x))).isSome := by
  rw [Datum.isUnprintable, fractional_float]
  cases x.isFinite <;> rfl

theorem isUnprintable_decimal (x : Decimal) :
    (Datum.floatValue (.decimal x)).isUnprintable =
      (fault? (fractional (.decimal x))).isSome := by
  rw [Datum.isUnprintable, fractional_decimal]
  cases x.isFinite <;> rfl

end Numeral
end GraphQL
