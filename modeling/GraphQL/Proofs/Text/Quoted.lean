import GraphQL.Proofs.Source.Spelling
import GraphQL.Text.Quoted
import Mathlib.Tactic.IntervalCases

/-!
# Reading quoted strings back

The lexer undoes what quoting does to a text, one character at a time.  A character
stands for itself, for one letter after a backslash, or for four hexadecimal digits;
each of these is read as the character again, whatever comes after it.
-/

namespace GraphQL
namespace Text
namespace Quoted

open Source Number

/-! ## Hexadecimal digits -/

theorem value?_hexDigit
    {n : Nat}
    (small : n < 16) :
    Hex.value? (hexDigit n) = some n := by
  interval_cases n <;> rfl

theorem hexFour?_hexDigits
    (c : Char)
    (rest : List Char)
    (basic : c.toNat < 0x10000) :
    Lexer.hexFour? (hexDigit (c.toNat / 4096 % 16) :: hexDigit (c.toNat / 256 % 16) ::
      hexDigit (c.toNat / 16 % 16) :: hexDigit (c.toNat % 16) :: rest) = some c.toNat := by
  have digit : ∀ n, Hex.value? (hexDigit (n % 16)) = some (n % 16) :=
    fun n => value?_hexDigit (Nat.mod_lt n (by decide))
  simp only [Lexer.hexFour?, List.take_succ_cons, List.take_zero, List.length_cons,
    List.length_nil, if_true, Hex.ofDigits?, List.foldl_cons, List.foldl_nil, Option.bind_some,
    digit, Option.map_some, Option.some.injEq]
  omega

theorem scalar?_toNat (c : Char) : Lexer.scalar? c.toNat = some c := by
  have valid : c.toNat.isValidChar := c.valid
  unfold Lexer.scalar?
  rw [dif_pos valid, Char.ofNat_toNat]

theorem hexDigit_ne_brace (n : Nat) : hexDigit (n % 16) ≠ '\x7b' := by
  have small : n % 16 < 16 := Nat.mod_lt n (by decide)
  generalize n % 16 = digit at small
  interval_cases digit <;> decide

/-! ## One character -/

theorem escape_unicodeEscape
    (c : Char)
    (rest : List Char)
    (basic : c.toNat < 0x10000) :
    Lexer.escape (unicodeEscape c ++ rest) = .ok (c, 6) := by
  have fixed := hexFour?_hexDigits c rest basic
  have notBrace := hexDigit_ne_brace (c.toNat / 4096)
  rw [unicodeEscape, List.cons_append, List.cons_append]
  refine Lexer.escape_fixed ?_ ?_
  · simpa using notBrace
  · simp [Lexer.fixedEscape?, fixed, scalar?_toNat]

/-- The letter after a backslash stands for the character it was made from. -/
theorem shortEscape?_of_shortEscape?
    {c letter : Char}
    (short : shortEscape? c = some letter) :
    Lexer.shortEscape? letter = some c := by
  unfold shortEscape? at short
  split_ifs at short with h h h h h h h <;>
    (obtain rfl := Option.some.inj short; subst h; decide)

theorem escape_of_shortEscape?
    {c letter : Char}
    (short : shortEscape? c = some letter)
    (rest : List Char) :
    Lexer.escape ('\\' :: letter :: rest) = .ok (c, 2) :=
  Lexer.escape_short (shortEscape?_of_shortEscape? short) rest

/-- A character without a short escape ends neither a string nor a line. -/
theorem plain_of_shortEscape?_eq_none
    {c : Char}
    (plain : shortEscape? c = none) :
    c ≠ '"' ∧ c ≠ '\\' ∧ Lexer.isLineEnd c = false := by
  refine ⟨?_, ?_, ?_⟩
  · rintro rfl
    simp [shortEscape?] at plain
  · rintro rfl
    simp [shortEscape?] at plain
  · by_contra ends
    simp only [Lexer.isLineEnd, Bool.not_eq_false, Bool.or_eq_true, decide_eq_true_eq] at ends
    rcases ends with rfl | rfl <;> simp [shortEscape?] at plain

/-- One quoted character is read as that character. -/
theorem stringBody_encodeChar
    {spelled : Char → Bool}
    (basic : ∀ c, spelled c = true → c.toNat < 0x10000)
    (c : Char)
    (rest : List Char) :
    Lexer.stringBody 0 (encodeChar spelled c ++ rest) =
      (do
        let (value, left) ← Lexer.stringBody 0 rest
        return (c :: value, left)) := by
  unfold encodeChar
  split
  · next letter short =>
    have read := escape_of_shortEscape? short rest
    simp [Lexer.stringBody, read, Outcome.ok_bind]
  · next plain =>
    obtain ⟨notQuote, notBackslash, inLine⟩ := plain_of_shortEscape?_eq_none plain
    split_ifs with control
    · have read := escape_unicodeEscape c rest (basic c control)
      simp only [unicodeEscape, List.cons_append, List.nil_append] at read ⊢
      simp [Lexer.stringBody, read, Outcome.ok_bind]
    · simp [Lexer.stringBody, notQuote, notBackslash, inLine]

/-! ## Whole strings -/

/-- The lexer's string reader undoes quoting. -/
theorem stringBody_encode
    {spelled : Char → Bool}
    (basic : ∀ c, spelled c = true → c.toNat < 0x10000)
    (cs rest : List Char) :
    Lexer.stringBody 0 (cs.flatMap (encodeChar spelled) ++ '"' :: rest) = .ok (cs, rest) := by
  induction cs with
  | nil => simp [Lexer.stringBody]
  | cons c cs undone =>
    rw [List.flatMap_cons, List.append_assoc, stringBody_encodeChar basic, undone]
    rfl

theorem encodeChar_head_ne_quote
    (spelled : Char → Bool)
    (c : Char) :
    ∃ d ds, encodeChar spelled c = d :: ds ∧ d ≠ '"' := by
  unfold encodeChar
  split
  · exact ⟨_, _, rfl, by decide⟩
  · next plain =>
    split_ifs
    · exact ⟨_, _, rfl, by decide⟩
    · exact ⟨_, _, rfl, (plain_of_shortEscape?_eq_none plain).1⟩

/-- A quoted text is one string token.  Only an empty one runs into a quote that
follows it. -/
theorem lexeme_quote
    {spelled : Char → Bool}
    (basic : ∀ c, spelled c = true → c.toNat < 0x10000)
    {cs rest : List Char}
    (apart : cs ≠ [] ∨ rest.head? ≠ some '"') :
    Lexer.lexeme (quote spelled cs ++ rest) = .ok (.string (String.ofList cs), rest) := by
  have read := stringBody_encode basic cs rest
  have noBlock : ∀ more,
      cs.flatMap (encodeChar spelled) ++ '"' :: rest ≠ '"' :: '"' :: more := by
    intro more same
    cases cs with
    | nil =>
      simp only [List.flatMap_nil, List.nil_append, List.cons.injEq, true_and] at same
      simp [same] at apart
    | cons c cs =>
      obtain ⟨d, ds, chars, notQuote⟩ := encodeChar_head_ne_quote spelled c
      simp only [List.flatMap_cons, chars, List.cons_append, List.cons.injEq] at same
      exact notQuote same.1
  simp only [quote, List.cons_append, List.append_assoc, List.nil_append]
  unfold Lexer.lexeme
  split
  · next same => simp at same
  · next more same =>
    simp only [List.cons.injEq, true_and] at same
    exact absurd same (noBlock _)
  · next body _ same =>
    obtain ⟨-, rfl⟩ := List.cons.inj same
    simp [read, Outcome.ok_bind, pure, Except.pure]
  · next same => simp at same
  · next notString _ same =>
    obtain ⟨rfl, rfl⟩ := List.cons.inj same
    exact (notString rfl).elim

/-! ## Line ends -/

/-- A hexadecimal digit is a letter or a digit. -/
theorem hexDigit_ne_lineEnd (n : Nat) :
    hexDigit (n % 16) ≠ '\n' ∧ hexDigit (n % 16) ≠ '\r' := by
  have bound : n % 16 < 16 := Nat.mod_lt _ (by decide)
  generalize n % 16 = digit at bound
  decide +revert

/-- The letter of an escape ends no line. -/
theorem letter_ne_lineEnd
    {c letter : Char}
    (short : shortEscape? c = some letter) :
    letter ≠ '\n' ∧ letter ≠ '\r' := by
  have inLine := Lexer.isLineEnd_of_shortEscape? (shortEscape?_of_shortEscape? short)
  simpa [Lexer.isLineEnd] using inLine

/-- No character of a quoted text ends a line, whatever it stands for. -/
theorem forall_mem_encodeChar (spelled : Char → Bool) (c : Char) :
    ∀ d ∈ encodeChar spelled c, d ≠ '\n' ∧ d ≠ '\r' := by
  rw [encodeChar.eq_def]
  split
  case h_1 letter short =>
    simpa using letter_ne_lineEnd short
  case h_2 plain =>
    split
    case isTrue =>
      simpa [unicodeEscape] using
        ⟨hexDigit_ne_lineEnd _, hexDigit_ne_lineEnd _, hexDigit_ne_lineEnd _,
          hexDigit_ne_lineEnd _⟩
    case isFalse =>
      have inLine := (plain_of_shortEscape?_eq_none plain).2.2
      simpa [Lexer.isLineEnd] using inLine

/-- A quoted text is on one line. -/
theorem forall_mem_quote (spelled : Char → Bool) (cs : List Char) :
    ∀ d ∈ quote spelled cs, d ≠ '\n' ∧ d ≠ '\r' := by
  rw [quote]
  simp only [List.forall_mem_cons, List.forall_mem_append, List.forall_mem_flatMap]
  exact ⟨by decide, fun c _ => forall_mem_encodeChar spelled c, by decide,
    List.forall_mem_nil _⟩

/-! ## Controls -/

theorem isControl_eq_false_iff (c : Char) :
    isControl c = false ↔ 0x20 ≤ c.toNat ∧ c.toNat ≠ 0x7f := by
  simp [isControl]

theorem isControl_hexDigit (n : Nat) : isControl (hexDigit (n % 16)) = false := by
  have bound : n % 16 < 16 := Nat.mod_lt _ (by decide)
  generalize n % 16 = digit at bound
  decide +revert

/-- The letter of an escape is no control. -/
theorem isControl_letter
    {c letter : Char}
    (short : shortEscape? c = some letter) :
    isControl letter = false := by
  unfold shortEscape? at short
  split_ifs at short <;> (obtain rfl := Option.some.inj short; decide)

/-- Where all ASCII controls are spelled out, no character of a quoted text is one,
whatever it stands for. -/
theorem isControl_of_mem_encodeChar
    {spelled : Char → Bool}
    (spellsControls : ∀ c, isControl c = true → spelled c = true)
    (c : Char) :
    ∀ d ∈ encodeChar spelled c, isControl d = false := by
  rw [encodeChar.eq_def]
  split
  case h_1 letter short =>
    simpa using ⟨by decide, isControl_letter short⟩
  case h_2 plain =>
    split
    case isTrue =>
      simpa [unicodeEscape] using
        ⟨by decide, by decide, isControl_hexDigit _, isControl_hexDigit _, isControl_hexDigit _,
          isControl_hexDigit _⟩
    case isFalse notSpelled =>
      simpa using fun control => notSpelled (spellsControls c control)

theorem isControl_of_mem_quote
    {spelled : Char → Bool}
    (spellsControls : ∀ c, isControl c = true → spelled c = true)
    (cs : List Char) :
    ∀ d ∈ quote spelled cs, isControl d = false := by
  rw [quote]
  simp only [List.forall_mem_cons, List.forall_mem_append, List.forall_mem_flatMap]
  exact ⟨by decide, fun c _ => isControl_of_mem_encodeChar spellsControls c, by decide,
    List.forall_mem_nil _⟩

/-! ## Requests -/

theorem isControl_basic (c : Char) (control : isControl c = true) : c.toNat < 0x10000 := by
  simp only [isControl, Bool.or_eq_true, decide_eq_true_eq] at control
  omega

/-- A quoted text spells the string token with that text for a value. -/
theorem spells_encode (text : String) : Spells (encode text) (.of [.string text]) := by
  intro rest broken
  rw [toList_encode]
  have apart : rest.head? ≠ some '"' := by
    intro quoteFollows
    exact absurd (broken _ quoteFollows) (by decide)
  apply lexed_of_lexeme
  · rfl
  · rw [lexeme_quote isControl_basic (.inr apart), String.ofList_toList]
  · simp

/-- What follows a quoted text keeps apart from it, unless the text is empty and a quote
follows. -/
theorem lexeme_encode_iff (text : String) (rest : List Char) :
    Lexer.lexeme ((encode text).toList ++ rest) = .ok (.string text, rest) ↔
      (text = "" → rest.head? ≠ some '"') := by
  rw [toList_encode]
  constructor
  · rintro read rfl quoteFollows
    obtain ⟨more, rfl⟩ : ∃ more, rest = '"' :: more := List.head?_eq_some_iff.mp quoteFollows
    simp only [String.toList_empty, quote, List.flatMap_nil, List.nil_append, List.cons_append,
      Lexer.lexeme] at read
    cases body : Lexer.blockBody more <;> simp [body] at read
  · intro apart
    have apart' : text.toList ≠ [] ∨ rest.head? ≠ some '"' := by
      rw [Ne, String.toList_eq_nil_iff, or_iff_not_imp_left, not_not]
      exact apart
    rw [lexeme_quote isControl_basic apart', String.ofList_toList]

/-- The lexer undoes the quoting of a request.  A quoted text is one string token that ends
at its closing quote, whatever follows, and has the text for its value; only the quotes of
an empty text run into a quote behind them, and so begin a block string.  Between its quotes
as well as in them there is no ASCII control character. -/
theorem tokenize_encode (text rest : String) :
    (Lexer.lexeme (encode text ++ rest).toList = .ok (.string text, rest.toList) ↔
      (text = "" → rest.toList.head? ≠ some '"')) ∧
    ((text = "" → rest.toList.head? ≠ some '"') →
      tokenize (encode text ++ rest) =
        (Tokens.ofChars (encode text ++ rest).toList.length (encode text ++ rest).toList.length
          rest.toList).cons ⟨.string text, 0⟩) ∧
    ∀ c ∈ (encode text).toList, 0x20 ≤ c.toNat ∧ c.toNat ≠ 0x7f := by
  have chars : (encode text ++ rest).toList = (encode text).toList ++ rest.toList :=
    String.toList_append
  refine ⟨?_, fun apart => ?_, fun c present => ?_⟩
  · rw [chars]
    exact lexeme_encode_iff text rest.toList
  · have read := (lexeme_encode_iff text rest.toList).mpr apart
    rw [← chars] at read
    have front : Lexer.skipIgnored false (encode text ++ rest).toList =
        (encode text ++ rest).toList := by
      rw [chars, toList_encode]
      rfl
    exact tokenize_of_lexeme front read (by simp)
  · rw [toList_encode] at present
    exact (isControl_eq_false_iff c).mp
      (isControl_of_mem_quote (fun _ control => control) text.toList c present)

/-- Quotes next to a backslash and a line break are read back before a quote. -/
theorem tokenize_encode_escapes :
    ("\"\\\n" = "" → "\"".toList.head? ≠ some '"') ∧
      tokenize (encode "\"\\\n" ++ "\"") =
        (Tokens.ofChars (encode "\"\\\n" ++ "\"").toList.length
          (encode "\"\\\n" ++ "\"").toList.length "\"".toList).cons ⟨.string "\"\\\n", 0⟩ :=
  ⟨fun empty => absurd empty (by decide),
    (tokenize_encode "\"\\\n" "\"").2.1 fun empty => absurd empty (by decide)⟩

end Quoted
end Text
end GraphQL
