import GraphQL.Proofs.Request.Numeral
import Mathlib.Data.List.TakeWhile
import Mathlib.Data.Rat.Cast.Order
import Mathlib.Tactic.FieldSimp
import Mathlib.Tactic.Ring

/-!
# The values of numerals

A numeral stands for a rational number, and for that it does not matter how it is laid
out: digits with a point among them, a point behind zeros, or an exponent that says where
the point would be.  A decimal number is written as a float token whose value it is,
whichever layout its size calls for.
-/

namespace GraphQL
namespace Numeral

open Number Source Source.Lexer

/-! ## Values -/

/-- The natural number that digits stand for. -/
def digitsValue (ds : List Char) : ℕ :=
  Nat.ofDigitChars 10 ds 0

/-- The value of a point and digits, or of nothing. -/
def fractionValue (cs : List Char) : ℚ :=
  digitsValue cs.tail / 10 ^ cs.tail.length

/-- The value of digits that may have a point among them. -/
def pointedValue (cs : List Char) : ℚ :=
  digitsValue (cs.takeWhile Char.isDigit) + fractionValue (cs.dropWhile Char.isDigit)

/-- The power of ten that the mark of an exponent and what is behind it stand for. -/
def exponentValue : List Char → ℤ
  | _ :: '-' :: ds => -digitsValue ds
  | _ :: '+' :: ds => digitsValue ds
  | _ :: ds => digitsValue ds
  | [] => 0

/-- The character marks an exponent. -/
def isExponentMark (c : Char) : Bool :=
  c = 'e' || c = 'E'

/-- The value of a number without a sign. -/
def magnitude (cs : List Char) : ℚ :=
  pointedValue (cs.takeWhile fun c => !isExponentMark c) *
    10 ^ exponentValue (cs.dropWhile fun c => !isExponentMark c)

/-- The rational number that the characters of a number stand for. -/
def rational : List Char → ℚ
  | '-' :: cs => -magnitude cs
  | cs => magnitude cs

/-- The factor that a sign stands for. -/
def signFactor (negative : Bool) : ℚ :=
  if negative then -1 else 1

/-! ## Digits and points -/

theorem digitsValue_append (front back : List Char) :
    digitsValue (front ++ back) = digitsValue front * 10 ^ back.length + digitsValue back := by
  rw [digitsValue, Nat.ofDigitChars_append, Nat.ofDigitChars_eq_ofDigitChars_zero, mul_comm]
  rfl

@[simp] theorem digitsValue_digits (n : ℕ) : digitsValue (Decimal.digits n) = n :=
  Nat.ofDigitChars_toDigits (by decide) (by decide)

@[simp] theorem digitsValue_zeros (count : ℕ) : digitsValue (List.replicate count '0') = 0 := by
  rw [digitsValue, Nat.ofDigitChars_replicate_zero]
  simp

/-- Digits in front of a point and digits behind it have the value of all of them, moved by
as many places as there are behind the point. -/
theorem pointedValue_point
    {front back : List Char}
    (areDigits : ∀ d ∈ front, d.isDigit = true) :
    pointedValue (front ++ '.' :: back) = digitsValue (front ++ back) / 10 ^ back.length := by
  have stops : ('.' :: back).takeWhile Char.isDigit = [] ∧
      ('.' :: back).dropWhile Char.isDigit = '.' :: back := by
    constructor <;> rfl
  rw [pointedValue, List.takeWhile_append_of_pos areDigits, List.dropWhile_append_of_pos areDigits,
    stops.1, stops.2, List.append_nil, fractionValue, List.tail_cons, digitsValue_append]
  field_simp
  push_cast
  ring

theorem pointedValue_of_digits
    {ds : List Char}
    (areDigits : ∀ d ∈ ds, d.isDigit = true) :
    pointedValue ds = digitsValue ds := by
  rw [pointedValue, List.takeWhile_eq_self_iff.mpr areDigits,
    List.dropWhile_eq_nil_iff.mpr areDigits]
  simp [fractionValue, digitsValue]

/-- Wherever a point is put among digits, or before them, it moves their value by the number
of places behind it. -/
theorem pointedValue_pointAfter
    {whole : ℤ}
    {ds : List Char}
    (areDigits : ∀ d ∈ ds, d.isDigit = true)
    (inside : whole ≤ ds.length) :
    pointedValue (Decimal.pointAfter whole ds) = digitsValue ds * 10 ^ (whole - ds.length) := by
  have moved (places : ℕ) (same : whole - ds.length = -(places : ℤ)) :
      (digitsValue ds : ℚ) * 10 ^ (whole - ds.length) = digitsValue ds / 10 ^ places := by
    rw [same, zpow_neg, zpow_natCast, div_eq_mul_inv]
  unfold Decimal.pointAfter
  split_ifs with leading
  · have zeros : digitsValue ('0' :: (List.replicate whole.natAbs '0' ++ ds)) = digitsValue ds := by
      rw [← List.cons_append, ← List.replicate_succ, digitsValue_append, digitsValue_zeros]
      simp
    have behind : (List.replicate whole.natAbs '0' ++ ds).length = whole.natAbs + ds.length := by
      simp
    have pointed := @pointedValue_point ['0'] (List.replicate whole.natAbs '0' ++ ds) (by simp)
    rw [List.singleton_append, List.singleton_append, zeros, behind] at pointed
    rw [pointed, moved (whole.natAbs + ds.length) (by omega)]
  · have places : (ds.drop whole.toNat).length = ds.length - whole.toNat := by simp
    rw [pointedValue_point fun d present => areDigits d (List.mem_of_mem_take present),
      List.take_append_drop, places, moved (ds.length - whole.toNat) (by omega)]

/-! ## Signs and exponents -/

theorem rational_signed
    (negative : Bool)
    {cs : List Char}
    (unsigned : cs.head? ≠ some '-') :
    rational (signChars negative ++ cs) = signFactor negative * magnitude cs := by
  cases negative with
  | true => simp [signChars, rational, signFactor]
  | false =>
    rw [signChars, if_neg Bool.false_ne_true, List.nil_append, rational.eq_def]
    split
    · simp at unsigned
    · simp [signFactor]

theorem magnitude_of_unmarked
    {cs : List Char}
    (unmarked : ∀ c ∈ cs, isExponentMark c = false) :
    magnitude cs = pointedValue cs := by
  have all : ∀ c ∈ cs, (!isExponentMark c) = true := by simpa using unmarked
  rw [magnitude, List.takeWhile_eq_self_iff.mpr all, List.dropWhile_eq_nil_iff.mpr all]
  simp [exponentValue]

theorem magnitude_marked
    {front exponent : List Char}
    {mark : Char}
    (unmarked : ∀ c ∈ front, isExponentMark c = false)
    (isMark : isExponentMark mark = true) :
    magnitude (front ++ mark :: exponent) =
      pointedValue front * 10 ^ exponentValue (mark :: exponent) := by
  have all : ∀ c ∈ front, (!isExponentMark c) = true := by simpa using unmarked
  rw [magnitude, List.takeWhile_append_of_pos all, List.dropWhile_append_of_pos all]
  simp [isMark]

/-- The text of a whole number behind the mark of an exponent has that number for its
value. -/
theorem exponentValue_signedText (mark : Char) (n : ℤ) :
    exponentValue (mark :: Decimal.signedText n) = n := by
  rw [Decimal.signedText]
  split_ifs with below
  · simp only [exponentValue, digitsValue_digits]
    omega
  · simp only [exponentValue, digitsValue_digits]
    omega

/-! ## Decimal numbers -/

/-- The characters of digits and points mark no exponent. -/
theorem isExponentMark_of_isDigit_or_point
    {c : Char}
    (plain : c.isDigit = true ∨ c = '.') :
    isExponentMark c = false := by
  rw [isExponentMark, Bool.or_eq_false_iff, decide_eq_false_iff_not, decide_eq_false_iff_not]
  constructor
  · rintro rfl
    exact absurd plain (by decide)
  · rintro rfl
    exact absurd plain (by decide)

theorem mem_pointAfter
    {whole : ℤ}
    {ds : List Char}
    (areDigits : ∀ d ∈ ds, d.isDigit = true) :
    ∀ c ∈ Decimal.pointAfter whole ds, c.isDigit = true ∨ c = '.' := by
  intro c present
  unfold Decimal.pointAfter at present
  split_ifs at present
  · simp only [List.mem_cons, List.mem_append] at present
    rcases present with rfl | rfl | zero | digit
    · exact .inl rfl
    · exact .inr rfl
    · exact .inl (isDigit_of_mem_zeros zero)
    · exact .inl (areDigits c digit)
  · simp only [List.mem_cons, List.mem_append] at present
    rcases present with digit | rfl | digit
    · exact .inl (areDigits c (List.mem_of_mem_take digit))
    · exact .inr rfl
    · exact .inl (areDigits c (List.mem_of_mem_drop digit))

/-- The digits of a number in front of an exponent, with a point after the first of them
unless there is only one. -/
theorem pointedValue_scientific
    {ds : List Char}
    (areDigits : AreDigits ds) :
    pointedValue (if ds.length = 1 then ds else Decimal.pointAfter 1 ds) =
      digitsValue ds * 10 ^ (1 - ds.length : ℤ) := by
  have positive : 0 < ds.length := List.length_pos_iff.mpr areDigits.1
  split_ifs with single
  · rw [pointedValue_of_digits areDigits.2, single]
    simp
  · exact pointedValue_pointAfter areDigits.2 (by omega)

/-- However a coefficient and a power of ten are laid out, the text has their value. -/
theorem magnitude_magnitudeText (coefficient : ℕ) (exponent : ℤ) :
    magnitude (Decimal.magnitudeText coefficient exponent) = coefficient * 10 ^ exponent := by
  have areDigits := areDigits_digits coefficient
  have isPlain : ∀ d ∈ Decimal.digits coefficient, d.isDigit = true ∨ d = '.' :=
    fun d present => .inl (areDigits.2 d present)
  have unmarked {cs : List Char} (plain : ∀ c ∈ cs, c.isDigit = true ∨ c = '.') :
      ∀ c ∈ cs, isExponentMark c = false :=
    fun c present => isExponentMark_of_isDigit_or_point (plain c present)
  unfold Decimal.magnitudeText
  extract_lets ds lead
  by_cases plain : (exponent ≤ 0 && Decimal.lowestPlain ≤ lead) = true
  · rw [if_pos plain]
    simp only [Bool.and_eq_true, decide_eq_true_eq] at plain
    split_ifs with zero
    · rw [magnitude_of_unmarked (unmarked isPlain), pointedValue_of_digits areDigits.2,
        digitsValue_digits, zero, zpow_zero, mul_one]
    · have inside : (ds.length : ℤ) + exponent ≤ ds.length := by omega
      rw [magnitude_of_unmarked (unmarked (mem_pointAfter areDigits.2)),
        pointedValue_pointAfter areDigits.2 inside, digitsValue_digits, add_sub_cancel_left]
  · have scientific : ∀ c ∈ (if ds.length = 1 then ds else Decimal.pointAfter 1 ds),
        c.isDigit = true ∨ c = '.' := by
      split_ifs
      · exact isPlain
      · exact mem_pointAfter areDigits.2
    have positive : 0 < ds.length := List.length_pos_iff.mpr areDigits.1
    have shift : (1 - ds.length : ℤ) + lead = exponent := by
      change (1 - ds.length : ℤ) + (exponent + (ds.length - 1 : ℕ)) = exponent
      omega
    rw [if_neg plain, magnitude_marked (unmarked scientific) rfl,
      pointedValue_scientific areDigits, exponentValue_signedText, digitsValue_digits, mul_assoc,
      ← zpow_add₀ (by norm_num), shift]

theorem head?_whole_append
    {whole : List Char}
    (isWhole : IsWhole whole)
    (more : List Char) :
    (whole ++ more).head? ≠ some '-' := by
  obtain ⟨d, ds, rfl⟩ := List.exists_cons_of_ne_nil isWhole.1.1
  rw [List.cons_append, List.head?_cons, Ne, Option.some.injEq]
  rintro rfl
  exact absurd (isWhole.1.2 '-' (by simp)) (by decide)

/-- The text of a decimal number has the value of the number. -/
theorem rational_decimal (negative : Bool) (coefficient : ℕ) (exponent : ℤ) :
    rational (Decimal.finite negative coefficient exponent).text.toList =
      signFactor negative * coefficient * 10 ^ exponent := by
  obtain ⟨whole, fraction, shown, isWhole, -, -, parts⟩ :=
    exists_magnitudeText coefficient exponent
  have unsigned : (Decimal.magnitudeText coefficient exponent).head? ≠ some '-' := by
    rw [parts, List.append_assoc]
    exact head?_whole_append isWhole _
  rw [Decimal.text, String.toList_ofList, mul_assoc, ← magnitude_magnitudeText]
  exact rational_signed negative unsigned

/-! ## Numerals with a fraction -/

/-- A fraction of zero where no fraction shows does not change the value of a numeral. -/
theorem rational_withFraction
    {text : String}
    (isNumeral : IsNumeral text.toList) :
    rational (withFraction text).toList = rational text.toList := by
  obtain ⟨negative, whole, fraction, exponent, isWhole, isFraction, isExponent, parts⟩ := isNumeral
  have shows := showsFraction_of_parts isWhole isFraction isExponent parts
  unfold withFraction
  split_ifs with showing
  · rfl
  · obtain ⟨rfl, rfl⟩ : fraction = [] ∧ exponent = [] := by simpa [shows] using showing
    rw [List.append_nil, List.append_nil] at parts
    have digit : ∀ c ∈ whole, isExponentMark c = false := fun c present =>
      isExponentMark_of_isDigit_or_point (.inl (isWhole.1.2 c present))
    have pointed : ∀ c ∈ whole ++ ['.', '0'], isExponentMark c = false := by
      intro c present
      rcases List.mem_append.mp present with front | behind
      · exact digit c front
      · simp only [List.mem_cons, List.not_mem_nil, or_false] at behind
        rcases behind with rfl | rfl <;> rfl
    have unsigned := head?_whole_append isWhole []
    rw [List.append_nil] at unsigned
    have same : magnitude (whole ++ ['.', '0']) = magnitude whole := by
      rw [magnitude_of_unmarked digit, magnitude_of_unmarked pointed,
        pointedValue_point isWhole.1.2, pointedValue_of_digits isWhole.1.2, digitsValue_append,
        show digitsValue ['0'] = 0 from digitsValue_zeros 1]
      simp
    have appended : (text ++ ".0").toList = signChars negative ++ (whole ++ ['.', '0']) := by
      simp [parts]
    rw [appended, parts, rational_signed negative (head?_whole_append isWhole _),
      rational_signed negative unsigned, same]

theorem tokenize_floatValue
    {text : String}
    (isFloatValue : IsFloatValue text.toList) :
    tokenize text = ⟨[⟨.float text, 0⟩], .ok text.toList.length⟩ := by
  obtain ⟨read, front⟩ := lexeme_floatValue isFloatValue broken_nil
  rw [List.append_nil] at read front
  rw [tokenize_of_lexeme front read (by simp), Tokens.ofChars_nil]
  rfl

/-- Every finite decimal number, whatever its sign, coefficient and exponent are, is written as
a number with a fraction or an exponent.  The whole text is one float token, and the number is
its value.  What is written for a finite binary number is one float token, too. -/
theorem fractional_isFloatValue :
    (∀ negative coefficient exponent, ∃ text,
      fractional (.decimal (.finite negative coefficient exponent)) = .ok text ∧
        IsFloatValue text.toList ∧
        tokenize text = ⟨[⟨.float text, 0⟩], .ok text.toList.length⟩ ∧
        rational text.toList = signFactor negative * coefficient * 10 ^ exponent) ∧
    ∀ x : Binary64, x.isFinite = true → ∃ text,
      fractional (.float x) = .ok text ∧
        IsFloatValue text.toList ∧
        tokenize text = ⟨[⟨.float text, 0⟩], .ok text.toList.length⟩ := by
  constructor
  · intro negative coefficient exponent
    have isNumeral := isNumeral_decimal negative coefficient exponent
    have isFloatValue := isFloatValue_withFraction isNumeral
    exact ⟨_, rfl, isFloatValue, tokenize_floatValue isFloatValue,
      (rational_withFraction isNumeral).trans (rational_decimal negative coefficient exponent)⟩
  · intro x finite
    have isFloatValue := isFloatValue_withFraction (isNumeral_binary finite)
    exact ⟨_, by rw [fractional_float, if_pos finite], isFloatValue,
      tokenize_floatValue isFloatValue⟩

/-- The number 0.5 in binary is written as a float token. -/
theorem fractional_half_isFloatValue :
    Binary64.isFinite ⟨0x3fe0000000000000⟩ = true ∧ ∃ text,
      fractional (.float ⟨0x3fe0000000000000⟩) = .ok text ∧
        IsFloatValue text.toList ∧
        tokenize text = ⟨[⟨.float text, 0⟩], .ok text.toList.length⟩ :=
  ⟨by decide, fractional_isFloatValue.2 ⟨0x3fe0000000000000⟩ (by decide)⟩

example : fractional (.decimal (.finite true 1 2)) = .ok "-1E+2" := rfl

example : rational "-1E+2".toList = -100 := by decide +kernel

end Numeral
end GraphQL
