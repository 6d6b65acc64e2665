import GraphQL.Proofs.Source.Canonical.Leaf
import GraphQL.Proofs.Source.Number
import GraphQL.Proofs.Source.Rendering.Layout

/-!
# Lexemes that are written again

A lexeme that stands in some text and carries a text of its own is written with that text in
canonical text.  A name or a number is written as it stood there, a string is quoted anew, and
a block string is written as a literal.  Each is read as it was, but for a block string, which
settles.
-/

namespace GraphQL
namespace Source

open Text

/-! ## Numbers -/

namespace Lexer

theorem isWhole_of_integerPart
    {cs ds rest : List Char}
    (read : integerPart cs = .ok (ds, rest)) :
    IsWhole ds := by
  obtain ⟨split, areDigits⟩ := integerPart_read read
  refine ⟨areDigits, fun zero => ?_⟩
  rw [integerPart.eq_def] at read
  split at read
  · split at read
    · cases read
    · exact (Prod.mk.inj (Except.ok.inj read)).1.symm
  · next notZero =>
    obtain ⟨more, rfl⟩ := List.head?_eq_some_iff.mp zero
    exact absurd split (notZero _)

theorem isFraction_of_fractionPart
    {cs ds rest : List Char}
    (read : fractionPart cs = .ok (ds, rest)) :
    IsFraction ds := by
  rw [fractionPart.eq_def] at read
  split at read
  · obtain ⟨⟨found, left⟩, readDigits, same⟩ := Outcome.bind_eq_ok_iff.mp read
    obtain ⟨rfl, rfl⟩ := Prod.mk.inj (Except.ok.inj same)
    exact .digits (digits_read readDigits).2
  · obtain ⟨rfl, rfl⟩ := Prod.mk.inj (Except.ok.inj read)
    exact .absent

theorem isExponent_of_exponentPart
    {cs ds rest : List Char}
    (read : exponentPart cs = .ok (ds, rest)) :
    IsExponent ds := by
  rw [exponentPart.eq_def] at read
  split at read
  case h_2 =>
    obtain ⟨rfl, rfl⟩ := Prod.mk.inj (Except.ok.inj read)
    exact .absent
  case h_1 c more =>
    split at read
    case isFalse =>
      obtain ⟨rfl, rfl⟩ := Prod.mk.inj (Except.ok.inj read)
      exact .absent
    case isTrue isMark =>
      rw [Bool.or_eq_true, decide_eq_true_iff, decide_eq_true_iff] at isMark
      split at read
      case h_2 => cases read
      case h_1 s more =>
        split at read
        all_goals
          obtain ⟨⟨found, left⟩, readDigits, same⟩ := Outcome.bind_eq_ok_iff.mp read
          obtain ⟨rfl, rfl⟩ := Prod.mk.inj (Except.ok.inj same)
        case isTrue isSign =>
          exact .digits isMark (by simpa using isSign) (digits_read readDigits).2
        case isFalse => exact .unsigned isMark (digits_read readDigits).2

/-- A number is read again where its text stands before something that it does not run
into. -/
theorem exists_spells_of_number
    {cs rest : List Char}
    {found : Lexeme}
    (read : number cs = .ok (found, rest)) :
    ∃ text, (found = .int text ∨ found = .float text) ∧ Spells text (.of [found]) := by
  rw [number] at read
  obtain ⟨⟨whole, afterWhole⟩, readWhole, read⟩ := Outcome.bind_eq_ok_iff.mp read
  obtain ⟨⟨fraction, afterFraction⟩, readFraction, read⟩ := Outcome.bind_eq_ok_iff.mp read
  obtain ⟨⟨exponent, afterExponent⟩, readExponent, read⟩ := Outcome.bind_eq_ok_iff.mp read
  obtain ⟨negative, sign⟩ : ∃ negative, (signPart cs).1 = signChars negative := by
    rw [signPart.eq_def]
    split
    · exact ⟨true, rfl⟩
    · exact ⟨false, rfl⟩
  dsimp only at read
  split at read
  case isTrue => cases read
  case isFalse =>
    obtain ⟨rfl, rfl⟩ := Prod.mk.inj (Except.ok.inj read)
    refine ⟨_, ?_, spells_number negative (isWhole_of_integerPart readWhole)
      (isFraction_of_fractionPart readFraction) (isExponent_of_exponentPart readExponent)
      (by rw [← sign]; exact String.toList_ofList)⟩
    split
    · exact .inl rfl
    · exact .inr rfl

end Lexer

/-! ## Lexemes -/

/-- If the lexeme carries a text, it is read where it is written in canonical text, and a block
string settles. -/
def Lexeme.Legible (lexeme : Lexeme) : Prop :=
  lexeme.value?.isSome = true →
    Renders (String.ofList (Canonical.leafText lexeme)) [lexeme]

/-- A text without line feeds stands for a lexeme wherever it is moved to. -/
theorem renders_of_not_mem
    {text : String}
    {lexeme : Lexeme}
    (noLineFeed : '\n' ∉ text.toList)
    (unsettled : lexeme.settled = lexeme)
    (spells : Spells text (.of [lexeme])) :
    Renders text [lexeme] := by
  intro margin _
  rw [moved_of_not_mem noLineFeed, List.map_singleton, unsettled]
  exact spells

theorem lineFeed_not_mem_of_isWord
    {cs : List Char}
    (isWord : Canonical.IsWord cs) :
    '\n' ∉ cs :=
  fun present => Bool.false_ne_true (isWord.chars '\n' present)

/-- A name, an integer or a float that is spelled by its own text is legible. -/
theorem legible_of_isWord
    {lexeme : Lexeme}
    (isWord : Canonical.IsWord (Canonical.leafText lexeme))
    (unsettled : lexeme.settled = lexeme)
    (spells : Spells (String.ofList (Canonical.leafText lexeme)) (.of [lexeme])) :
    lexeme.Legible :=
  fun _ => renders_of_not_mem (by simpa using lineFeed_not_mem_of_isWord isWord) unsettled spells

theorem legible_string (value : String) : Lexeme.Legible (.string value) := by
  intro _
  have noLineFeed : '\n' ∉ Canonical.leafText (.string value) := by
    rw [Canonical.leafText_string]
    exact fun present => (Quoted.forall_mem_quote _ _ _ present).1 rfl
  refine renders_of_not_mem (by simpa using noLineFeed) rfl ?_
  intro rest broken
  have apart : rest.head? ≠ some '"' := fun quoted => Bool.false_ne_true (broken _ quoted)
  rw [String.toList_ofList]
  refine lexed_of_lexeme ?_ (Canonical.lexeme_string apart value) (by simp)
  rw [Canonical.leafText_string, Quoted.quote]
  rfl

theorem legible_blockString (raw : List Char) :
    Lexeme.Legible (.blockString (String.ofList (Block.value raw))) := by
  intro _ margin isMargin rest _
  rw [toList_moved, String.toList_ofList, Canonical.leafText_blockString, String.toList_ofList]
  have isValue : Block.IsValue (Block.value raw) := ⟨raw, rfl⟩
  have read := Block.lexeme_indentRest_literal isMargin isValue rest
  have settled : Lexeme.settled (.blockString (String.ofList (Block.value raw))) =
      .blockString (String.ofList (Block.settle (Block.value raw))) := by
    simp [Lexeme.settled]
  rw [List.map_singleton, settled]
  refine lexed_of_lexeme ?_ read (by simp)
  rw [Block.literal_eq]
  rfl

/-- Every lexeme that is read is legible. -/
theorem Lexer.legible_of_lexeme
    {cs rest : List Char}
    {found : Lexeme}
    (read : lexeme cs = .ok (found, rest)) :
    found.Legible := by
  have isGenuine := genuine_of_lexeme read
  have kinds (carries : found.value?.isSome = true) :=
    (Canonical.IsLeaf.mk isGenuine carries).cases
  rw [lexeme.eq_def] at read
  split at read
  case h_1 =>
    obtain ⟨rfl, -⟩ := Prod.mk.inj (Except.ok.inj read)
    simp [Lexeme.Legible, Lexeme.value?]
  case h_2 =>
    obtain ⟨⟨raw, left⟩, -, same⟩ := Outcome.bind_eq_ok_iff.mp read
    obtain ⟨rfl, -⟩ := Prod.mk.inj (Except.ok.inj same)
    exact legible_blockString raw
  case h_3 =>
    obtain ⟨⟨value, left⟩, -, same⟩ := Outcome.bind_eq_ok_iff.mp read
    obtain ⟨rfl, -⟩ := Prod.mk.inj (Except.ok.inj same)
    exact legible_string _
  case h_4 =>
    obtain ⟨rfl, -⟩ := Prod.mk.inj (Except.ok.inj read)
    simp [Lexeme.Legible, Lexeme.value?]
  case h_5 c cs _ _ _ =>
    split at read
    case h_1 =>
      obtain ⟨rfl, -⟩ := Prod.mk.inj (Except.ok.inj read)
      simp [Lexeme.Legible, Lexeme.value?]
    case h_2 =>
      split_ifs at read with isNumeral isStart
      · obtain ⟨text, rfl | rfl, spells⟩ := exists_spells_of_number read
        all_goals
          obtain ⟨isWord, -⟩ | ⟨_, other⟩ | ⟨_, other, -⟩ := kinds rfl
          · exact legible_of_isWord isWord rfl (by simpa [Canonical.leafText] using spells)
          · cases other
          · cases other
      · rw [List.span_eq_takeWhile_dropWhile] at read
        obtain ⟨rfl, -⟩ := Prod.mk.inj (Except.ok.inj read)
        exact legible_of_isWord (Canonical.isWord_of_isName isGenuine) rfl
          (by simpa [Canonical.leafText] using Name.spells_of_isName isGenuine)

end Source
end GraphQL
