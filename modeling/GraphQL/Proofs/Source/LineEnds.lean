import GraphQL.Proofs.Source.Drawing
import GraphQL.Proofs.Text.Lines

/-!
# Line ends do not matter

A line of source text ends at a line feed, a carriage return or the pair of both, and a
text reads the same when every line end is written as a line feed.  Between tokens line
ends are passed over, a comment and a block string know all three, and a string or an
escape ends at any of them.  Where the text is refused, the error may be told differently:
it shows what is left of the text.
-/

namespace GraphQL
namespace Source
namespace Lexer

open Text Text.Lines

/-! ## Readers -/

/-- What is read from a text, and what is read from the text with line feeds for its line
ends: the same, with the same left behind it, or errors. -/
inductive Unified {α : Type} :
    Except Stuck (α × List Char) → Except Stuck (α × List Char) → Prop
  | ok (value : α) (rest : List Char) : Unified (.ok (value, rest)) (.ok (value, unify rest))
  | error (stuck other : Stuck) : Unified (.error stuck) (.error other)

theorem Unified.bind
    {α β : Type}
    {first other : Except Stuck (α × List Char)}
    {next nextOther : α × List Char → Except Stuck (β × List Char)}
    (unified : Unified first other)
    (unifiedNext : ∀ value rest, Unified (next (value, rest)) (nextOther (value, unify rest))) :
    Unified (first >>= next) (other >>= nextOther) := by
  cases unified with
  | ok value rest => exact unifiedNext value rest
  | error stuck other => exact .error stuck other

/-! ## Numbers -/

theorem unified_digits (cs : List Char) : Unified (digits cs) (digits (unify cs)) := by
  rw [digits, digits, any_head?_unify Char.isDigit rfl rfl, span_unify Char.isDigit rfl rfl]
  split
  · exact .ok _ _
  · exact .error _ _

theorem unified_integerPart (cs : List Char) :
    Unified (integerPart cs) (integerPart (unify cs)) := by
  fun_cases integerPart cs with
  | case1 cs runsOn =>
    rw [unify_cons_of_ne (by decide), integerPart, any_head?_unify Char.isDigit rfl rfl,
      if_pos runsOn]
    exact .error _ _
  | case2 cs ends =>
    rw [unify_cons_of_ne (by decide), integerPart, any_head?_unify Char.isDigit rfl rfl,
      if_neg ends]
    exact .ok _ _
  | case3 cs notZero =>
    rw [integerPart.eq_2]
    · exact unified_digits cs
    · intro more opens
      obtain ⟨before, same, -⟩ := exists_of_unify_eq_cons (by decide) opens
      exact notZero before same

theorem unified_fractionPart (cs : List Char) :
    Unified (fractionPart cs) (fractionPart (unify cs)) := by
  fun_cases fractionPart cs with
  | case1 cs =>
    rw [unify_cons_of_ne (by decide), fractionPart]
    exact (unified_digits cs).bind fun _ _ => .ok _ _
  | case2 cs notPoint =>
    rw [fractionPart.eq_2]
    · exact .ok _ _
    · intro more opens
      obtain ⟨before, same, -⟩ := exists_of_unify_eq_cons (by decide) opens
      exact notPoint before same

/-- A mark that opens an exponent. -/
def isExponentMark (c : Char) : Bool :=
  c = 'e' || c = 'E'

/-- A sign that may follow the mark of an exponent. -/
def isExponentSign (c : Char) : Bool :=
  c = '+' || c = '-'

/-- Nothing is read of an exponent where no mark opens one. -/
theorem exponentPart_of_not_mark
    {cs : List Char}
    (noMark : cs.head?.any isExponentMark = false) :
    exponentPart cs = .ok ([], cs) := by
  cases cs with
  | nil => rfl
  | cons c cs =>
    rw [exponentPart.eq_def]
    exact if_neg (by simpa [isExponentMark] using noMark)

/-- Without a sign the digits of an exponent follow its mark. -/
theorem exponentPart_of_not_sign
    {c : Char}
    (isMark : isExponentMark c = true)
    {cs : List Char}
    (noSign : cs.head?.any isExponentSign = false) :
    exponentPart (c :: cs) =
      (do
        let (ds, rest) ← digits cs
        return (c :: ds, rest)) := by
  rw [exponentPart.eq_def]
  refine (if_pos isMark).trans ?_
  cases cs with
  | nil => rfl
  | cons s cs => exact if_neg (by simpa [isExponentSign] using noSign)

/-- With a sign they follow the sign. -/
theorem exponentPart_of_sign
    {c s : Char}
    (isMark : isExponentMark c = true)
    (isSign : isExponentSign s = true)
    (cs : List Char) :
    exponentPart (c :: s :: cs) =
      (do
        let (ds, rest) ← digits cs
        return (c :: s :: ds, rest)) := by
  rw [exponentPart.eq_def]
  exact (if_pos isMark).trans (if_pos isSign)

theorem unified_exponentPart (cs : List Char) :
    Unified (exponentPart cs) (exponentPart (unify cs)) := by
  have sameMark := any_head?_unify isExponentMark rfl rfl cs
  by_cases isMark : cs.head?.any isExponentMark = true
  · cases cs with
    | nil => cases isMark
    | cons c cs =>
      have sameSign := any_head?_unify isExponentSign rfl rfl cs
      have noReturn : c ≠ '\r' := by
        rintro rfl
        cases isMark
      rw [unify_cons_of_ne noReturn]
      by_cases isSign : cs.head?.any isExponentSign = true
      · cases cs with
        | nil => cases isSign
        | cons s cs =>
          have noReturnToo : s ≠ '\r' := by
            rintro rfl
            cases isSign
          rw [unify_cons_of_ne noReturnToo, exponentPart_of_sign isMark isSign,
            exponentPart_of_sign isMark isSign]
          exact (unified_digits cs).bind fun _ _ => .ok _ _
      · rw [Bool.not_eq_true] at isSign
        rw [exponentPart_of_not_sign isMark isSign,
          exponentPart_of_not_sign isMark (sameSign.trans isSign)]
        exact (unified_digits cs).bind fun _ _ => .ok _ _
  · rw [Bool.not_eq_true] at isMark
    rw [exponentPart_of_not_mark isMark, exponentPart_of_not_mark (sameMark.trans isMark)]
    exact .ok _ _

theorem signPart_unify (cs : List Char) :
    signPart (unify cs) = ((signPart cs).1, unify (signPart cs).2) := by
  fun_cases signPart cs with
  | case1 cs => rw [unify_cons_of_ne (by decide), signPart]
  | case2 cs noSign =>
    rw [signPart.eq_2]
    intro more opens
    obtain ⟨before, same, -⟩ := exists_of_unify_eq_cons (by decide) opens
    exact noSign before same

theorem unified_number (cs : List Char) : Unified (number cs) (number (unify cs)) := by
  rw [number, number, signPart_unify]
  refine (unified_integerPart _).bind fun whole afterWhole => ?_
  refine (unified_fractionPart _).bind fun fraction afterFraction => ?_
  refine (unified_exponentPart _).bind fun exponent rest => ?_
  simp only [any_head?_unify (fun c => c = '.' || Name.isStart c) rfl rfl rest]
  split
  · exact .error _ _
  · exact .ok _ _

/-! ## Escapes -/

/-- The answer is read from as many characters at the front of the text as `size` says.
None of them ends a line, and what follows them is not looked at. -/
def ReadsFront {α : Type} (reader : List Char → α) (answer : α) (size : Nat)
    (cs : List Char) : Prop :=
  ∃ front rest, cs = front ++ rest ∧ front.length = size ∧
    (∀ c ∈ front, isLineEnd c = false) ∧ ∀ other, reader (front ++ other) = answer

theorem isLineEnd_of_value?
    {c : Char}
    {digit : Nat}
    (isDigit : Number.Hex.value? c = some digit) :
    isLineEnd c = false := by
  rw [isLineEnd, Bool.or_eq_false_iff]
  constructor
  all_goals
    rw [decide_eq_false_iff_not]
    rintro rfl
    cases isDigit

theorem isLineEnd_of_ofDigits?
    {ds : List Char}
    {point : Nat}
    (areDigits : Number.Hex.ofDigits? ds = some point) :
    ∀ c ∈ ds, isLineEnd c = false := by
  -- Once a character is no digit, there is no number to go on with.
  have refused (ds : List Char) :
      ds.foldl (fun n? c => n?.bind fun n => (Number.Hex.value? c).map (n * 16 + ·)) none =
        none := by
    induction ds with
    | nil => rfl
    | cons d ds inductionHypothesis => exact inductionHypothesis
  have digitsFrom (start : Nat) (ds : List Char) (point : Nat)
      (areDigits : ds.foldl (fun n? c => n?.bind fun n =>
        (Number.Hex.value? c).map (n * 16 + ·)) (some start) = some point) :
      ∀ c ∈ ds, isLineEnd c = false := by
    induction ds generalizing start with
    | nil => nofun
    | cons d ds inductionHypothesis =>
      rw [List.foldl_cons] at areDigits
      cases isDigit : Number.Hex.value? d with
      | none =>
        rw [isDigit] at areDigits
        exact absurd (areDigits.symm.trans (refused ds)) (by simp)
      | some digit =>
        rw [isDigit] at areDigits
        exact List.forall_mem_cons.mpr
          ⟨isLineEnd_of_value? isDigit, inductionHypothesis _ areDigits⟩
  exact digitsFrom 0 ds point areDigits

theorem readsFront_hexFour?
    {cs : List Char}
    {point : Nat}
    (read : hexFour? cs = some point) :
    ReadsFront hexFour? (some point) 4 cs := by
  rw [hexFour?] at read
  split at read
  case isFalse => cases read
  case isTrue isFour =>
    refine ⟨cs.take 4, cs.drop 4, (List.take_append_drop 4 cs).symm, isFour,
      isLineEnd_of_ofDigits? read, fun other => ?_⟩
    rw [hexFour?, List.take_left' isFour, if_pos isFour, read]

theorem readsFront_bracedEscape
    {point size final : Nat}
    {cs : List Char}
    {value : Char}
    (read : bracedEscape point size cs = .ok (value, final)) :
    size ≤ final ∧
      ReadsFront (bracedEscape point size) (.ok (value, final)) (final - size) cs := by
  fun_induction bracedEscape point size cs with
  | case1 => cases read
  | case2 => cases read
  | case3 => cases read
  | case4 point size cs short notLong found isScalar =>
    obtain ⟨rfl, rfl⟩ := Prod.mk.inj (Except.ok.inj read)
    refine ⟨by omega, ['\x7d'], cs, rfl, by simp, by simp [isLineEnd], fun other => ?_⟩
    rw [List.singleton_append, bracedEscape, if_neg short, if_pos rfl, if_neg notLong, isScalar]
  | case5 => cases read
  | case6 => cases read
  | case7 point size c cs short notBrace digit isDigit inductionHypothesis =>
    obtain ⟨fits, front, rest, rfl, length, noLineEnd, readFront⟩ := inductionHypothesis read
    refine ⟨by omega, c :: front, rest, rfl, by simp only [List.length_cons]; omega,
      List.forall_mem_cons.mpr ⟨isLineEnd_of_value? isDigit, noLineEnd⟩, fun other => ?_⟩
    rw [List.cons_append, bracedEscape, if_neg short, if_neg notBrace, isDigit]
    exact readFront other

/-- The second escape of a surrogate pair, from the text after the digits of the first. -/
def trailingEscape? (high : Nat) (cs : List Char) : Option Escape :=
  if 0xd800 ≤ high && high ≤ 0xdbff then
    match cs with
    | '\\' :: 'u' :: more => do
      let low ← hexFour? more
      if 0xdc00 ≤ low && low ≤ 0xdfff then
        return (surrogatePair high low, 12)
      else none
    | _ => none
  else none

theorem fixedEscape?_eq (cs : List Char) :
    fixedEscape? cs = (do
      let code ← hexFour? cs
      match scalar? code with
      | some value => return (value, 6)
      | none => trailingEscape? code (cs.drop 4)) := rfl

theorem readsFront_trailingEscape?
    {high size : Nat}
    {cs : List Char}
    {value : Char}
    (read : trailingEscape? high cs = some (value, size)) :
    size = 12 ∧ ReadsFront (trailingEscape? high) (some (value, size)) 6 cs := by
  rw [trailingEscape?.eq_def] at read
  split at read
  case isFalse => cases read
  case isTrue isHigh =>
    split at read
    case h_2 => cases read
    case h_1 more =>
      obtain ⟨low, readFour, found⟩ := Option.bind_eq_some_iff.mp read
      obtain ⟨four, rest, rfl, isFour, noLineEnd, readFront⟩ := readsFront_hexFour? readFour
      have isTwelve : size = 12 := by
        split at found
        · exact (Prod.mk.inj (Option.some.inj found)).2.symm
        · cases found
      refine ⟨isTwelve, '\\' :: 'u' :: four, rest, rfl, by simp [isFour], ?_, fun other => ?_⟩
      · simpa [isLineEnd] using noLineEnd
      · refine (if_pos isHigh).trans ?_
        change (hexFour? (four ++ other) >>= _) = _
        rw [readFront]
        exact found

theorem readsFront_fixedEscape?
    {cs : List Char}
    {value : Char}
    {size : Nat}
    (read : fixedEscape? cs = some (value, size)) :
    6 ≤ size ∧ ReadsFront fixedEscape? (some (value, size)) (size - 2) cs := by
  rw [fixedEscape?_eq] at read
  obtain ⟨code, readFour, read⟩ := Option.bind_eq_some_iff.mp read
  obtain ⟨four, rest, rfl, isFour, noLineEnd, readFront⟩ := readsFront_hexFour? readFour
  rw [List.drop_left' isFour] at read
  split at read
  case h_1 found isScalar =>
    obtain ⟨rfl, rfl⟩ := Prod.mk.inj (Option.some.inj read)
    refine ⟨by omega, four, rest, rfl, isFour, noLineEnd, fun other => ?_⟩
    rw [fixedEscape?_eq, readFront, Option.bind_eq_bind, Option.bind_some, isScalar]
    rfl
  case h_2 noScalar =>
    obtain ⟨rfl, pair, rest, rfl, isSix, noLineEndToo, readPair⟩ := readsFront_trailingEscape? read
    refine ⟨by omega, four ++ pair, rest, by simp, by simp [isFour, isSix], ?_, fun other => ?_⟩
    · exact List.forall_mem_append.mpr ⟨noLineEnd, noLineEndToo⟩
    · rw [fixedEscape?_eq, List.append_assoc, readFront, Option.bind_eq_bind, Option.bind_some,
        noScalar, List.drop_left' isFour]
      exact readPair other

/-- An escape is read from its characters. -/
theorem readsFront_escape
    {cs : List Char}
    {value : Char}
    {size : Nat}
    (read : escape ('\\' :: cs) = .ok (value, size)) :
    1 ≤ size ∧ ReadsFront (fun cs => escape ('\\' :: cs)) (.ok (value, size)) (size - 1) cs := by
  rcases cases_of_escape read with
    ⟨more, rfl, isBraced⟩ | ⟨more, rfl, notBraced, isFixed⟩ | ⟨letter, more, value, rfl, isShort, same⟩
  · obtain ⟨fits, front, rest, rfl, length, noLineEnd, readFront⟩ := readsFront_bracedEscape isBraced
    refine ⟨by omega, 'u' :: '\x7b' :: front, rest, rfl, by simp; omega, ?_, fun other => ?_⟩
    · simpa [isLineEnd] using noLineEnd
    · exact escape_braced (readFront other)
  · obtain ⟨fits, front, rest, rfl, length, noLineEnd, readFront⟩ := readsFront_fixedEscape? isFixed
    obtain ⟨d, ds, rfl⟩ : ∃ d ds, front = d :: ds := by
      refine List.exists_cons_of_length_pos ?_
      omega
    refine ⟨by omega, 'u' :: d :: ds, rest, rfl, by simp at length ⊢; omega, ?_, fun other => ?_⟩
    · simpa [isLineEnd] using noLineEnd
    · exact escape_fixed notBraced (readFront other)
  · obtain ⟨rfl, rfl⟩ := Prod.mk.inj same
    refine ⟨by omega, [letter], more, rfl, rfl, ?_, escape_short isShort⟩
    exact List.forall_mem_singleton.mpr (isLineEnd_of_shortEscape? isShort)

/-- What an escape is read from stays as it is, since it holds no line end. -/
theorem ReadsFront.unify
    {α : Type}
    {reader : List Char → α}
    {answer : α}
    {size : Nat}
    {cs : List Char}
    (reads : ReadsFront reader answer size cs) :
    ∃ front rest, cs = front ++ rest ∧ front.length = size ∧
      Lines.unify cs = front ++ Lines.unify rest ∧ reader (Lines.unify cs) = answer := by
  obtain ⟨front, rest, rfl, length, noLineEnd, readFront⟩ := reads
  have same : Lines.unify (front ++ rest) = front ++ Lines.unify rest :=
    unify_append (fun present => absurd (noLineEnd _ present) (by decide)) rest
  exact ⟨front, rest, rfl, length, same, same ▸ readFront _⟩

/-- What is read from a text with line feeds only is read from the text before. -/
theorem ReadsFront.of_unify
    {α : Type}
    {reader : List Char → α}
    {answer : α}
    {size : Nat}
    {cs : List Char}
    (reads : ReadsFront reader answer size (Lines.unify cs)) :
    reader cs = answer := by
  obtain ⟨front, rest, split, -, noLineEnd, readFront⟩ := reads
  obtain ⟨before, rfl, -⟩ := exists_of_unify_eq_append
    (fun present => absurd (noLineEnd _ present) (by decide)) split
  exact readFront before

/-! ## Strings -/

/-- Characters of an escape that has been read are passed over. -/
theorem stringBody_append (front rest : List Char) :
    stringBody front.length (front ++ rest) = stringBody 0 rest := by
  induction front with
  | nil => rfl
  | cons c front inductionHypothesis =>
    rw [List.length_cons, List.cons_append, stringBody, inductionHypothesis]

/-- A line end opens a line end in the text with line feeds only. -/
theorem exists_unify_of_isLineEnd
    {c : Char}
    (ends : isLineEnd c = true)
    (cs : List Char) :
    ∃ rest, Lines.unify (c :: cs) = '\n' :: rest := by
  by_cases isReturn : c = '\r'
  · subst isReturn
    rw [Lines.unify.eq_def]
    split
    case h_1 same => cases same
    case h_2 => exact ⟨_, rfl⟩
    case h_3 same =>
      obtain ⟨rfl, -⟩ := List.cons.inj same
      exact ⟨_, rfl⟩
  · obtain rfl : c = '\n' := by simpa [isLineEnd, isReturn] using ends
    exact ⟨_, unify_cons_of_ne isReturn cs⟩

theorem unified_stringBody (cs : List Char) :
    Unified (stringBody 0 cs) (stringBody 0 (Lines.unify cs)) := by
  induction size : cs.length using Nat.strongRecOn generalizing cs with
  | ind size inductionHypothesis =>
    cases cs with
    | nil => exact .error _ _
    | cons c cs =>
      have shorter {rest : List Char} (isShorter : rest.length ≤ cs.length) :
          Unified (stringBody 0 rest) (stringBody 0 (Lines.unify rest)) :=
        inductionHypothesis rest.length (by simp at size; omega) rest rfl
      by_cases isQuote : c = '"'
      · subst isQuote
        rw [unify_cons_of_ne (by decide), stringBody, stringBody]
        exact .ok _ _
      by_cases isBackslash : c = '\\'
      · subst isBackslash
        rw [unify_cons_of_ne (by decide), stringBody, if_neg isQuote, if_pos rfl, stringBody,
          if_neg isQuote, if_pos rfl]
        cases read : escape ('\\' :: cs) with
        | ok answer =>
          obtain ⟨value, size⟩ := answer
          obtain ⟨-, reads⟩ := readsFront_escape read
          obtain ⟨front, rest, rfl, length, same, readOther⟩ := reads.unify
          rw [readOther, Outcome.ok_bind, Outcome.ok_bind]
          dsimp only
          rw [same, ← length, stringBody_append, stringBody_append]
          exact (shorter (by simp)).bind fun _ _ => .ok _ _
        | error stuck =>
          cases readOther : escape ('\\' :: Lines.unify cs) with
          | ok answer =>
            obtain ⟨value, size⟩ := answer
            have readToo := (readsFront_escape readOther).2.of_unify
            rw [read] at readToo
            cases readToo
          | error other => exact .error _ _
      by_cases ends : isLineEnd c = true
      · obtain ⟨rest, opens⟩ := exists_unify_of_isLineEnd ends cs
        rw [opens, stringBody, stringBody, if_neg isQuote, if_neg isBackslash, if_pos ends]
        exact .error _ _
      · have noReturn : c ≠ '\r' := by
          rintro rfl
          exact ends rfl
        rw [unify_cons_of_ne noReturn, stringBody, stringBody, if_neg isQuote, if_neg isBackslash,
          if_neg ends, if_neg isQuote, if_neg isBackslash, if_neg ends]
        exact (shorter (Nat.le_refl _)).bind fun _ _ => .ok _ _

/-! ## Block strings -/

/-- The raw text of a block string opens with a line feed only if the text does. -/
theorem head?_of_blockBody
    {cs raw rest : List Char}
    (read : blockBody cs = .ok (raw, rest))
    (opens : raw.head? = some '\n') :
    cs.head? = some '\n' := by
  fun_cases blockBody cs with
  | case1 =>
    obtain ⟨rfl, -⟩ := Prod.mk.inj (Except.ok.inj read)
    cases opens
  | case2 cs =>
    rw [blockBody] at read
    obtain ⟨⟨raw, left⟩, -, same⟩ := Outcome.bind_eq_ok_iff.mp read
    obtain ⟨rfl, -⟩ := Prod.mk.inj (Except.ok.inj same)
    cases opens
  | case3 c cs notQuotes notEscape =>
    rw [blockBody.eq_3 c cs notQuotes notEscape] at read
    obtain ⟨⟨raw, left⟩, -, same⟩ := Outcome.bind_eq_ok_iff.mp read
    obtain ⟨rfl, -⟩ := Prod.mk.inj (Except.ok.inj same)
    exact opens
  | case4 => cases read

/-- A line feed before a text without one at its front, as a line end. -/
theorem unify_return_of_ne
    {cs : List Char}
    (noLineFeed : cs.head? ≠ some '\n') :
    Lines.unify ('\r' :: cs) = '\n' :: Lines.unify cs := by
  rw [Lines.unify.eq_3, if_pos rfl]
  rintro more - rfl
  exact noLineFeed rfl

/-- A block string holds the same raw text, up to the line ends in it. -/
theorem blockBody_unify (cs : List Char) :
    blockBody (Lines.unify cs) =
      (blockBody cs).map fun parts => (Lines.unify parts.1, Lines.unify parts.2) := by
  have unify_quote (cs : List Char) : Lines.unify ('"' :: cs) = '"' :: Lines.unify cs :=
    unify_cons_of_ne (by decide) cs
  have unify_backslash (cs : List Char) : Lines.unify ('\\' :: cs) = '\\' :: Lines.unify cs :=
    unify_cons_of_ne (by decide) cs
  fun_induction blockBody cs with
  | case1 cs =>
    rw [unify_quote, unify_quote, unify_quote, blockBody]
    rfl
  | case2 cs inductionHypothesis =>
    rw [unify_backslash, unify_quote, unify_quote, unify_quote, blockBody, inductionHypothesis]
    cases blockBody cs with
    | error stuck => rfl
    | ok parts => simp [Except.map, pure, Except.pure, unify_quote]
  | case3 c cs notQuotes notEscape inductionHypothesis =>
    by_cases isReturn : c = '\r'
    · subst isReturn
      -- What is read opens with a line feed exactly if the text does, so a carriage return is
      -- put before a line feed only where it was read before one.
      by_cases isPair : cs.head? = some '\n'
      · obtain ⟨more, rfl⟩ := List.head?_eq_some_iff.mp isPair
        have unpaired : Lines.unify ('\r' :: '\n' :: more) = Lines.unify ('\n' :: more) := by
          rw [Lines.unify.eq_2, unify_cons_of_ne (by decide)]
        rw [unpaired, inductionHypothesis, blockBody.eq_3 '\n' more (by simp) (by simp)]
        cases blockBody more with
        | error stuck => rfl
        | ok parts =>
          simp [Except.map, pure, Except.pure, Lines.unify]
      · rw [unify_return_of_ne isPair, blockBody.eq_3 '\n' _ (by simp) (by simp),
          inductionHypothesis]
        cases read : blockBody cs with
        | error stuck => rfl
        | ok parts =>
          have noLineFeed : parts.1.head? ≠ some '\n' := fun opens =>
            isPair (head?_of_blockBody read opens)
          simp [Except.map, pure, Except.pure, unify_return_of_ne noLineFeed]
    · have notQuotesToo (more : List Char) (isQuote : c = '"')
          (opens : Lines.unify cs = '"' :: '"' :: more) : False := by
        have split : Lines.unify cs = ['"', '"'] ++ more := opens
        obtain ⟨before, same, -⟩ := exists_of_unify_eq_append (by decide) split
        exact notQuotes before isQuote same
      have notEscapeToo (more : List Char) (isBackslash : c = '\\')
          (opens : Lines.unify cs = '"' :: '"' :: '"' :: more) : False := by
        have split : Lines.unify cs = ['"', '"', '"'] ++ more := opens
        obtain ⟨before, same, -⟩ := exists_of_unify_eq_append (by decide) split
        exact notEscape before isBackslash same
      rw [unify_cons_of_ne isReturn, blockBody.eq_3 c _ notQuotesToo notEscapeToo,
        inductionHypothesis]
      cases blockBody cs with
      | error stuck => rfl
      | ok parts => simp [Except.map, pure, Except.pure, unify_cons_of_ne isReturn]
  | case4 => rfl

/-! ## Lexemes -/

/-- How a text may open, as far as it is told before a lexeme is read. -/
inductive Front : List Char → Prop
  | nothing : Front []
  | block (cs : List Char) : Front ('"' :: '"' :: '"' :: cs)
  | string {cs : List Char} (notBlock : ∀ more, cs = '"' :: '"' :: more → False) :
      Front ('"' :: cs)
  | spread (cs : List Char) : Front ('.' :: '.' :: '.' :: cs)
  | other {c : Char} {cs : List Char} (notQuote : c ≠ '"')
      (notSpread : ∀ more, c = '.' → cs = '.' :: '.' :: more → False) : Front (c :: cs)

theorem front (cs : List Char) : Front cs := by
  cases cs with
  | nil => exact .nothing
  | cons c cs =>
    by_cases isQuote : c = '"'
    · subst isQuote
      by_cases opensBlock : ∃ more, cs = '"' :: '"' :: more
      · obtain ⟨more, rfl⟩ := opensBlock
        exact .block more
      · exact .string fun more opens => opensBlock ⟨more, opens⟩
    · by_cases opensSpread : ∃ more, c = '.' ∧ cs = '.' :: '.' :: more
      · obtain ⟨more, rfl, rfl⟩ := opensSpread
        exact .spread more
      · exact .other isQuote fun more isPoint opens => opensSpread ⟨more, isPoint, opens⟩

/-- A lexeme at the front of a text that opens with neither a quote nor three points. -/
theorem lexeme_of_other
    {c : Char}
    {cs : List Char}
    (notQuote : c ≠ '"')
    (notSpread : ∀ more, c = '.' → cs = '.' :: '.' :: more → False) :
    lexeme (c :: cs) =
      match Punctuator.ofChar? c with
      | some mark => .ok (.punctuator mark, cs)
      | none =>
        if c.isDigit || c = '-' then number (c :: cs)
        else if Name.isStart c then
          .ok (.name (String.ofList (c :: (cs.span Name.isContinue).1)),
            (cs.span Name.isContinue).2)
        else if c = '\x27' then .error ⟨.singleQuote, c :: cs⟩
        else .error ⟨.unexpectedCharacter c, c :: cs⟩ :=
  lexeme.eq_5 c cs (fun _ isQuote _ => notQuote isQuote) notQuote notSpread

/-- Where a line ends, no lexeme opens. -/
theorem exists_error_of_isLineEnd
    {c : Char}
    (ends : isLineEnd c = true)
    (cs : List Char) :
    ∃ stuck, lexeme (c :: cs) = .error stuck := by
  obtain rfl | rfl : c = '\n' ∨ c = '\r' := by simpa [isLineEnd] using ends
  · exact ⟨_, lexeme_of_other (by decide) (by simp)⟩
  · exact ⟨_, lexeme_of_other (by decide) (by simp)⟩

theorem unified_lexeme_of_other
    {c : Char}
    {cs : List Char}
    (notQuote : c ≠ '"')
    (notSpread : ∀ more, c = '.' → cs = '.' :: '.' :: more → False) :
    Unified (lexeme (c :: cs)) (lexeme (Lines.unify (c :: cs))) := by
  by_cases ends : isLineEnd c = true
  · obtain ⟨stuck, refused⟩ := exists_error_of_isLineEnd ends cs
    obtain ⟨rest, opens⟩ := exists_unify_of_isLineEnd ends cs
    obtain ⟨other, refusedOther⟩ := exists_error_of_isLineEnd (c := '\n') rfl rest
    rw [refused, opens, refusedOther]
    exact .error _ _
  · have noReturn : c ≠ '\r' := by
      rintro rfl
      exact ends rfl
    have notSpreadToo (more : List Char) (isPoint : c = '.')
        (opens : Lines.unify cs = '.' :: '.' :: more) : False := by
      have split : Lines.unify cs = ['.', '.'] ++ more := opens
      obtain ⟨before, same, -⟩ := exists_of_unify_eq_append (by decide) split
      exact notSpread before isPoint same
    have sameNumber := unified_number (c :: cs)
    rw [unify_cons_of_ne noReturn] at sameNumber ⊢
    rw [lexeme_of_other notQuote notSpread, lexeme_of_other notQuote notSpreadToo,
      span_unify Name.isContinue rfl rfl]
    cases Punctuator.ofChar? c with
    | some mark => exact .ok _ _
    | none =>
      dsimp only
      split_ifs
      · exact sameNumber
      · exact .ok _ _
      · exact .error _ _
      · exact .error _ _

theorem unified_lexeme (cs : List Char) : Unified (lexeme cs) (lexeme (Lines.unify cs)) := by
  have unify_quote (cs : List Char) : Lines.unify ('"' :: cs) = '"' :: Lines.unify cs :=
    unify_cons_of_ne (by decide) cs
  have unify_point (cs : List Char) : Lines.unify ('.' :: cs) = '.' :: Lines.unify cs :=
    unify_cons_of_ne (by decide) cs
  cases front cs with
  | nothing => exact .ok _ _
  | block more =>
    rw [unify_quote, unify_quote, unify_quote, lexeme, lexeme, blockBody_unify]
    cases blockBody more with
    | error stuck => exact .error _ _
    | ok parts =>
      simp only [Except.map, Outcome.ok_bind, Block.value_unify]
      exact .ok _ _
  | @string more notBlock =>
    have notBlockToo (rest : List Char) (opens : Lines.unify more = '"' :: '"' :: rest) :
        False := by
      have split : Lines.unify more = ['"', '"'] ++ rest := opens
      obtain ⟨before, same, -⟩ := exists_of_unify_eq_append (by decide) split
      exact notBlock before same
    rw [unify_quote, lexeme.eq_3 _ notBlock, lexeme.eq_3 _ notBlockToo]
    exact (unified_stringBody more).bind fun _ _ => .ok _ _
  | spread more =>
    rw [unify_point, unify_point, unify_point, lexeme, lexeme]
    exact .ok _ _
  | other notQuote notSpread => exact unified_lexeme_of_other notQuote notSpread

/-! ## Between tokens -/

/-- What is passed over between tokens is passed over whatever the line ends are. -/
theorem skipIgnored_unify (inComment : Bool) (cs : List Char) :
    skipIgnored inComment (Lines.unify cs) = Lines.unify (skipIgnored inComment cs) := by
  fun_induction Lines.unify cs generalizing inComment with
  | case1 => rfl
  | case2 cs inductionHypothesis =>
    cases inComment
    all_goals simp [skipIgnored, isIgnored, isLineEnd, inductionHypothesis]
  | case3 c cs notPair inductionHypothesis =>
    by_cases isReturn : c = '\r'
    · subst isReturn
      cases inComment
      all_goals simp [skipIgnored, isIgnored, isLineEnd, inductionHypothesis]
    · rw [if_neg isReturn]
      simp only [skipIgnored, inductionHypothesis]
      split_ifs
      · rfl
      · rfl
      · rfl
      · rw [unify_cons_of_ne isReturn]

end Lexer

/-! ## Texts -/

open Text

/-- A text is read as the same lexemes with line feeds for all its line ends, and it is read
to its end if and only if that text is. -/
theorem lexed_unify (cs : List Char) :
    (lexed (Lines.unify cs)).lexemes = (lexed cs).lexemes ∧
      ((lexed (Lines.unify cs)).stop = none ↔ (lexed cs).stop = none) := by
  induction cs using Lexer.induction_rest with
  | step cs ofRest =>
    rw [lexed_eq (Lines.unify cs), lexed_eq cs, Lexer.skipIgnored_unify]
    have unified := Lexer.unified_lexeme (Lexer.skipIgnored false cs)
    generalize Lexer.lexeme (Lines.unify (Lexer.skipIgnored false cs)) = other at unified
    cases read : Lexer.lexeme (Lexer.skipIgnored false cs) with
    | error stuck =>
      rw [read] at unified
      cases unified
      exact ⟨rfl, by simp⟩
    | ok parts =>
      obtain ⟨found, rest⟩ := parts
      rw [read] at unified
      cases unified
      have sameRest (notEnd : found ≠ .endOfText) :
          (Lexed.of [found] ++ lexed (Lines.unify rest)).lexemes =
              (Lexed.of [found] ++ lexed rest).lexemes ∧
            ((Lexed.of [found] ++ lexed (Lines.unify rest)).stop = none ↔
              (Lexed.of [found] ++ lexed rest).stop = none) := by
        obtain ⟨sameLexemes, sameStop⟩ := ofRest found rest read notEnd
        exact ⟨congrArg (found :: ·) sameLexemes, sameStop⟩
      cases found with
      | endOfText => exact ⟨rfl, Iff.rfl⟩
      | _ => exact sameRest nofun

/-- A text that is read to its end is read as its lexemes. -/
theorem lexed_eq_of_stop
    {cs : List Char}
    (reaches : (lexed cs).stop = none) :
    lexed cs = .of (lexed cs).lexemes := by
  rw [Lexed.of, ← reaches]

/-- A text stands for the same document with line feeds for all its line ends, or for none
with either. -/
theorem Document.toOption_parse_unify (text : String) :
    (parse (String.ofList (Lines.unify text.toList))).toOption = (parse text).toOption := by
  have sameLexed := lexed_unify text.toList
  rw [← @String.toList_ofList (Lines.unify text.toList)] at sameLexed
  obtain ⟨sameLexemes, sameStop⟩ := sameLexed
  by_cases reaches : (lexed text.toList).stop = none
  · have same : lexed (String.ofList (Lines.unify text.toList)).toList = lexed text.toList := by
      rw [lexed_eq_of_stop (sameStop.mpr reaches), sameLexemes, ← lexed_eq_of_stop reaches]
    obtain ⟨error, other, refused, refusedOther, -⟩ | ⟨document, parsed, parsedOther⟩ :=
      parse_eq_of_lexed_eq same
    · rw [refused, refusedOther]
      rfl
    · rw [parsed, parsedOther]
  · obtain ⟨error, refused⟩ := exists_error_of_stop reaches
    obtain ⟨other, refusedOther⟩ := exists_error_of_stop (mt sameStop.mp reaches)
    rw [refused, refusedOther]
    rfl

/-- The canonical text of a text does not show how the lines of the text end. -/
theorem toOption_normalize_unify (text : String) :
    (normalize (String.ofList (Lines.unify text.toList))).toOption =
      (normalize text).toOption := by
  have normalized (text : String) :
      (normalize text).toOption = (Document.parse text).toOption.map Document.print := by
    rw [normalize]
    cases Document.parse text <;> rfl
  rw [normalized, normalized, Document.toOption_parse_unify]

end Source
end GraphQL
