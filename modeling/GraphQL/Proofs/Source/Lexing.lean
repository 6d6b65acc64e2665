import GraphQL.Proofs.Outcome
import GraphQL.Source.Lexer
import Mathlib.Data.List.TakeDrop

/-!
# What a text reads as

The lexemes of a text do not depend on where the text stands.  `lexed` forgets
positions: it keeps the lexemes before the end or the first error, and the cause of
that error.  Every lexeme takes a character, so the bound in `Tokens.ofChars` is
never met, and `lexed_eq` is the recursion without it.
-/

namespace GraphQL
namespace Source

open Outcome

/-- The lexemes that can be read from a text, and why reading stops if that is not
at the end of the text. -/
structure Lexed where
  /-- The lexemes before the end or the first error. -/
  lexemes : List Lexeme
  /-- The cause of the first error, if there is one. -/
  stop : Option Cause
  deriving DecidableEq, Repr

namespace Lexed

/-- The lexemes, and then the end of the text. -/
def of (lexemes : List Lexeme) : Lexed :=
  ⟨lexemes, none⟩

/-- What is read when more follows: nothing does after an error. -/
def append (first second : Lexed) : Lexed :=
  match first.stop with
  | none => ⟨first.lexemes ++ second.lexemes, second.stop⟩
  | some _ => first

instance : Append Lexed := ⟨append⟩

theorem append_def (first second : Lexed) : first ++ second = first.append second := rfl

@[simp] theorem of_nil_append (lexed : Lexed) : of [] ++ lexed = lexed := rfl

@[simp] theorem append_of_nil (lexed : Lexed) : lexed ++ of [] = lexed := by
  obtain ⟨lexemes, stop⟩ := lexed
  cases stop <;> simp [append_def, append, of]

theorem append_assoc (first second third : Lexed) :
    first ++ second ++ third = first ++ (second ++ third) := by
  obtain ⟨firstLexemes, firstStop⟩ := first
  obtain ⟨secondLexemes, secondStop⟩ := second
  cases firstStop <;> cases secondStop <;> simp [append_def, append]

/-- Reading stops where the first error is. -/
theorem stop_append (first second : Lexed) :
    (first ++ second).stop = first.stop.or second.stop := by
  obtain ⟨lexemes, stop⟩ := first
  cases stop <;> rfl

/-- What is read where texts follow one another. -/
def concat (reads : List Lexed) : Lexed :=
  reads.foldr (· ++ ·) (of [])

@[simp] theorem concat_nil : concat [] = of [] := rfl

@[simp] theorem concat_cons (read : Lexed) (reads : List Lexed) :
    concat (read :: reads) = read ++ concat reads := rfl

theorem stop_concat_eq_none_iff (reads : List Lexed) :
    (concat reads).stop = none ↔ ∀ read ∈ reads, read.stop = none := by
  induction reads with
  | nil => exact iff_of_true rfl nofun
  | cons read reads inductionHypothesis =>
    rw [concat_cons, stop_append, Option.or_eq_none_iff, inductionHypothesis, List.forall_mem_cons]

end Lexed

namespace Lexer

/-! ## The forms of an escape -/

theorem escape_braced
    {more : List Char}
    {answer : Escape}
    (read : bracedEscape 0 3 more = .ok answer) :
    escape ('\\' :: 'u' :: '\x7b' :: more) = .ok answer := by
  simp [escape, read]

theorem escape_fixed
    {more : List Char}
    {answer : Escape}
    (notBraced : more.head? ≠ some '\x7b')
    (read : fixedEscape? more = some answer) :
    escape ('\\' :: 'u' :: more) = .ok answer := by
  rw [escape, List.tail_cons]
  split
  case h_1 same =>
    obtain ⟨-, rfl⟩ := List.cons.inj same
    exact absurd rfl notBraced
  case h_2 same =>
    obtain ⟨-, rfl⟩ := List.cons.inj same
    rw [read]
  case h_3 notFixed same => exact absurd (List.cons.inj same).1.symm notFixed
  case h_4 same => cases same

theorem escape_short
    {letter value : Char}
    (read : shortEscape? letter = some value)
    (more : List Char) :
    escape ('\\' :: letter :: more) = .ok (value, 2) := by
  have notFixed : letter ≠ 'u' := by
    rintro rfl
    cases read
  rw [escape, List.tail_cons]
  split
  case h_1 same => exact absurd (List.cons.inj same).1 notFixed
  case h_2 same => exact absurd (List.cons.inj same).1 notFixed
  case h_3 same =>
    obtain ⟨rfl, -⟩ := List.cons.inj same
    rw [read]
  case h_4 same => cases same

theorem isLineEnd_of_shortEscape?
    {letter value : Char}
    (isShort : shortEscape? letter = some value) :
    isLineEnd letter = false := by
  rw [isLineEnd, Bool.or_eq_false_iff, decide_eq_false_iff_not, decide_eq_false_iff_not]
  constructor
  all_goals
    rintro rfl
    cases isShort

/-- An escape that is read has one of three forms: a number in braces, a number of four
digits or two, or a letter. -/
theorem cases_of_escape
    {cs : List Char}
    {answer : Escape}
    (read : escape ('\\' :: cs) = .ok answer) :
    (∃ more, cs = 'u' :: '\x7b' :: more ∧ bracedEscape 0 3 more = .ok answer) ∨
      (∃ more, cs = 'u' :: more ∧ more.head? ≠ some '\x7b' ∧ fixedEscape? more = some answer) ∨
      ∃ letter more value, cs = letter :: more ∧ shortEscape? letter = some value ∧
        answer = (value, 2) := by
  rw [escape, List.tail_cons] at read
  split at read
  case h_1 more =>
    split at read
    case h_1 answer readBraced => exact .inl ⟨more, rfl, by rw [readBraced, Except.ok.inj read]⟩
    case h_2 => cases read
  case h_2 more notBraced =>
    have opens : more.head? ≠ some '\x7b' := by
      intro isBrace
      obtain ⟨rest, rfl⟩ := List.head?_eq_some_iff.mp isBrace
      exact notBraced rest rfl
    split at read
    case h_1 answer readFixed =>
      exact .inr (.inl ⟨more, rfl, opens, by rw [readFixed, Except.ok.inj read]⟩)
    case h_2 => cases read
  case h_3 letter more _ _ =>
    split at read
    case h_1 value isShort =>
      exact .inr (.inr ⟨letter, more, value, rfl, isShort, (Except.ok.inj read).symm⟩)
    case h_2 => cases read
  case h_4 => cases read

/-! ## Every lexeme takes a character -/

/-- A reader that changes what another one reads leaves the same text. -/
theorem exists_read_of_wrapped
    {α β : Type}
    {reader : Except Stuck (α × List Char)}
    (wrap : α → β)
    {wrapped : β}
    {rest : List Char}
    (read : (do
      let (value, left) ← reader
      return (wrap value, left)) = .ok (wrapped, rest)) :
    ∃ value, reader = .ok (value, rest) := by
  obtain ⟨⟨value, left⟩, readValue, same⟩ := bind_eq_ok_iff.mp read
  simp only [pure, Except.pure, Except.ok.injEq, Prod.mk.injEq] at same
  exact ⟨value, by rw [readValue, same.2]⟩

theorem skipIgnored_length_le (inComment : Bool) (cs : List Char) :
    (skipIgnored inComment cs).length ≤ cs.length := by
  fun_induction skipIgnored inComment cs with
  | case1 => simp
  | case2 c cs skipped => simp; omega
  | case3 _ c cs _ _ skipped => simp; omega
  | case4 _ cs _ _ skipped => simp; omega
  | case5 => simp

theorem digits_length
    {cs ds rest : List Char}
    (read : digits cs = .ok (ds, rest)) :
    rest.length < cs.length := by
  unfold digits at read
  split at read
  · next opens =>
    cases cs with
    | nil => simp at opens
    | cons c cs =>
      have isDigit : c.isDigit = true := by simpa using opens
      rw [List.span_eq_takeWhile_dropWhile, List.dropWhile_cons, if_pos isDigit] at read
      simp only [Except.ok.injEq, Prod.mk.injEq] at read
      have shorter := (List.dropWhile_suffix Char.isDigit (l := cs)).length_le
      rw [read.2] at shorter
      simp only [List.length_cons]
      omega
  · simp at read

theorem integerPart_length
    {cs ds rest : List Char}
    (read : integerPart cs = .ok (ds, rest)) :
    rest.length < cs.length := by
  unfold integerPart at read
  split at read
  · split at read
    · simp at read
    · simp only [Except.ok.injEq, Prod.mk.injEq] at read
      simp [← read.2]
  · exact digits_length read

theorem fractionPart_length_le
    {cs ds rest : List Char}
    (read : fractionPart cs = .ok (ds, rest)) :
    rest.length ≤ cs.length := by
  unfold fractionPart at read
  split at read
  · obtain ⟨_, readDigits⟩ := exists_read_of_wrapped ('.' :: ·) read
    have shorter := digits_length readDigits
    simp only [List.length_cons]
    omega
  · simp only [Except.ok.injEq, Prod.mk.injEq] at read
    simp [← read.2]

theorem exponentPart_length_le
    {cs ds rest : List Char}
    (read : exponentPart cs = .ok (ds, rest)) :
    rest.length ≤ cs.length := by
  unfold exponentPart at read
  split at read
  · next c more =>
    split at read
    · split at read
      · next s more =>
        split at read
        · obtain ⟨_, readDigits⟩ := exists_read_of_wrapped (c :: s :: ·) read
          have shorter := digits_length readDigits
          simp only [List.length_cons]
          omega
        · obtain ⟨_, readDigits⟩ := exists_read_of_wrapped (c :: ·) read
          have shorter := digits_length readDigits
          simp only [List.length_cons] at shorter ⊢
          omega
      · simp at read
    · simp only [Except.ok.injEq, Prod.mk.injEq] at read
      simp [← read.2]
  · simp only [Except.ok.injEq, Prod.mk.injEq] at read
    simp [← read.2]

theorem number_length
    {cs rest : List Char}
    {found : Lexeme}
    (read : number cs = .ok (found, rest)) :
    rest.length < cs.length := by
  have signLength : (signPart cs).2.length ≤ cs.length := by
    unfold signPart
    split <;> simp
  unfold number at read
  obtain ⟨⟨whole, afterWhole⟩, readWhole, read⟩ := bind_eq_ok_iff.mp read
  obtain ⟨⟨fraction, afterFraction⟩, readFraction, read⟩ := bind_eq_ok_iff.mp read
  obtain ⟨⟨exponent, afterExponent⟩, readExponent, read⟩ := bind_eq_ok_iff.mp read
  have wholeLength : afterWhole.length < (signPart cs).2.length :=
    integerPart_length readWhole
  have fractionLength := fractionPart_length_le readFraction
  have exponentLength := exponentPart_length_le readExponent
  dsimp only at read exponentLength fractionLength
  split at read
  · simp at read
  · simp only [pure, Except.pure, Except.ok.injEq, Prod.mk.injEq] at read
    rw [← read.2]
    omega

theorem stringBody_length
    {skip : Nat}
    {cs value rest : List Char}
    (read : stringBody skip cs = .ok (value, rest)) :
    rest.length < cs.length := by
  fun_induction stringBody skip cs generalizing value rest with
  | case1 => simp at read
  | case2 skip c cs shorter =>
    have := shorter read
    simp only [List.length_cons]
    omega
  | case3 cs =>
    simp only [Except.ok.injEq, Prod.mk.injEq] at read
    simp [← read.2]
  | case4 cs _ shorter =>
    obtain ⟨⟨char, size⟩, _, read⟩ := bind_eq_ok_iff.mp read
    obtain ⟨_, readBody⟩ := exists_read_of_wrapped (char :: ·) read
    have := shorter size readBody
    simp only [List.length_cons]
    omega
  | case5 => simp at read
  | case6 c cs _ _ _ shorter =>
    obtain ⟨_, readBody⟩ := exists_read_of_wrapped (c :: ·) read
    have := shorter readBody
    simp only [List.length_cons]
    omega

theorem blockBody_length
    {cs raw rest : List Char}
    (read : blockBody cs = .ok (raw, rest)) :
    rest.length < cs.length := by
  fun_induction blockBody cs generalizing raw rest with
  | case1 cs =>
    simp only [Except.ok.injEq, Prod.mk.injEq] at read
    simp only [← read.2, List.length_cons]
    omega
  | case2 cs shorter =>
    obtain ⟨_, readBody⟩ :=
      exists_read_of_wrapped (fun more => '"' :: '"' :: '"' :: more) read
    have := shorter readBody
    simp only [List.length_cons]
    omega
  | case3 c cs _ _ shorter =>
    obtain ⟨_, readBody⟩ := exists_read_of_wrapped (c :: ·) read
    have := shorter readBody
    simp only [List.length_cons]
    omega
  | case4 => simp at read

/-- A lexeme takes at least one character. -/
theorem lexeme_length
    {cs rest : List Char}
    {found : Lexeme}
    (read : lexeme cs = .ok (found, rest))
    (notEnd : found ≠ .endOfText) :
    rest.length < cs.length := by
  unfold lexeme at read
  split at read
  · simp only [Except.ok.injEq, Prod.mk.injEq] at read
    exact absurd read.1.symm notEnd
  · obtain ⟨_, readBody⟩ := exists_read_of_wrapped
      (fun raw => Lexeme.blockString (String.ofList (Text.Block.value raw))) read
    have := blockBody_length readBody
    simp only [List.length_cons]
    omega
  · obtain ⟨_, readBody⟩ := exists_read_of_wrapped
      (fun value => Lexeme.string (String.ofList value)) read
    have := stringBody_length readBody
    simp only [List.length_cons]
    omega
  · simp only [Except.ok.injEq, Prod.mk.injEq] at read
    simp only [← read.2, List.length_cons]
    omega
  · next c cs _ _ _ =>
    split at read
    · simp only [Except.ok.injEq, Prod.mk.injEq] at read
      simp [← read.2]
    · split at read
      · exact number_length read
      · split at read
        · rw [List.span_eq_takeWhile_dropWhile] at read
          simp only [Except.ok.injEq, Prod.mk.injEq] at read
          have shorter := (List.dropWhile_suffix Text.Name.isContinue (l := cs)).length_le
          rw [read.2] at shorter
          simp only [List.length_cons]
          omega
        · split at read <;> simp at read

/-- What is left after the first lexeme of a text is shorter than the text. -/
theorem rest_length_lt
    {cs rest : List Char}
    {found : Lexeme}
    (read : lexeme (skipIgnored false cs) = .ok (found, rest))
    (notEnd : found ≠ .endOfText) :
    rest.length < cs.length :=
  Nat.lt_of_lt_of_le (lexeme_length read notEnd) (skipIgnored_length_le false cs)

/-- What is true of a text if it is true of what is left after its first lexeme is true of
all texts. -/
theorem induction_rest
    {motive : List Char → Prop}
    (step : ∀ cs, (∀ found rest, lexeme (skipIgnored false cs) = .ok (found, rest) →
      found ≠ .endOfText → motive rest) → motive cs)
    (cs : List Char) :
    motive cs := by
  induction size : cs.length using Nat.strongRecOn generalizing cs with
  | ind size inductionHypothesis =>
    refine step cs fun found rest read notEnd => ?_
    exact inductionHypothesis rest.length (size ▸ rest_length_lt read notEnd) rest rfl

end Lexer

/-! ## The recursion -/

namespace Tokens

/-- What tokens read, without their positions. -/
def lexed (tokens : Tokens) : Lexed :=
  ⟨tokens.read.map Token.lexeme,
    match tokens.ending with
    | .ok _ => none
    | .error error => some error.cause⟩

/-- One step of reading. -/
theorem lexed_ofChars_succ
    (total bound : Nat)
    (cs : List Char) :
    (ofChars total (bound + 1) cs).lexed =
      match Lexer.lexeme (Lexer.skipIgnored false cs) with
      | .error stuck => ⟨[], some stuck.cause⟩
      | .ok (.endOfText, _) => .of []
      | .ok (found, rest) => .of [found] ++ (ofChars total bound rest).lexed := by
  simp only [ofChars]
  cases Lexer.lexeme (Lexer.skipIgnored false cs) with
  | error stuck => rfl
  | ok parts =>
    obtain ⟨found, rest⟩ := parts
    cases found <;> rfl

/-- Two bounds that are not met give the same lexemes, wherever the text stands. -/
theorem lexed_ofChars_eq
    (total other bound : Nat)
    {larger : Nat}
    {cs : List Char}
    (within : cs.length < bound)
    (withinLarger : cs.length < larger) :
    (ofChars total bound cs).lexed = (ofChars other larger cs).lexed := by
  induction bound generalizing cs larger with
  | zero => omega
  | succ bound sameRest =>
    obtain ⟨larger, rfl⟩ : ∃ count, larger = count + 1 := ⟨larger - 1, by omega⟩
    simp only [lexed_ofChars_succ]
    split
    · rfl
    · rfl
    · next found rest notEnd read =>
      have shorter := Lexer.rest_length_lt read notEnd
      have sameLexed : (ofChars total bound rest).lexed = (ofChars other larger rest).lexed :=
        sameRest (by omega) (by omega)
      simp only [sameLexed]

end Tokens

/-- What a text reads as. -/
def lexed (cs : List Char) : Lexed :=
  (Tokens.ofChars cs.length (cs.length + 1) cs).lexed

theorem lexed_tokenize (text : String) :
    (tokenize text).lexed = lexed text.toList := rfl

theorem lexed_eq (cs : List Char) :
    lexed cs =
      match Lexer.lexeme (Lexer.skipIgnored false cs) with
      | .error stuck => ⟨[], some stuck.cause⟩
      | .ok (.endOfText, _) => .of []
      | .ok (found, rest) => .of [found] ++ lexed rest := by
  unfold lexed
  rw [Tokens.lexed_ofChars_succ]
  split
  · rfl
  · rfl
  · next found rest notEnd read =>
    have shorter := Lexer.rest_length_lt read notEnd
    have sameLexed := @Tokens.lexed_ofChars_eq cs.length rest.length cs.length
      (rest.length + 1) rest (by omega) (by omega)
    simp only [sameLexed]

@[simp] theorem lexed_nil : lexed [] = .of [] := rfl

/-- A character between tokens is passed over. -/
theorem lexed_cons_of_isIgnored
    {c : Char}
    (ignored : Lexer.isIgnored c = true)
    (cs : List Char) :
    lexed (c :: cs) = lexed cs := by
  rw [lexed_eq (c :: cs), lexed_eq cs]
  simp [Lexer.skipIgnored, ignored]

/-- A lexeme at the front of a text is read first. -/
theorem lexed_of_lexeme
    {cs rest : List Char}
    {found : Lexeme}
    (front : Lexer.skipIgnored false cs = cs)
    (read : Lexer.lexeme cs = .ok (found, rest))
    (notEnd : found ≠ .endOfText) :
    lexed cs = .of [found] ++ lexed rest := by
  rw [lexed_eq, front, read]
  cases found <;> first | rfl | exact absurd rfl notEnd

/-- A lexeme at the front of a text is its first token, and reading goes on behind it. -/
theorem tokenize_of_lexeme
    {text : String}
    {rest : List Char}
    {found : Lexeme}
    (front : Lexer.skipIgnored false text.toList = text.toList)
    (read : Lexer.lexeme text.toList = .ok (found, rest))
    (notEnd : found ≠ .endOfText) :
    tokenize text =
      (Tokens.ofChars text.toList.length text.toList.length rest).cons ⟨found, 0⟩ := by
  rw [tokenize, Tokens.ofChars, front, read, Nat.sub_self]
  cases found <;> first | rfl | exact absurd rfl notEnd

theorem Tokens.ofChars_nil (total bound : Nat) : ofChars total bound [] = ⟨[], .ok total⟩ := by
  cases bound <;> rfl

end Source
end GraphQL
