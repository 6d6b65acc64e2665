import GraphQL.Proofs.Source.Canonical.Code
import GraphQL.Proofs.Source.Genuine
import GraphQL.Proofs.Text.Quoted

/-!
# Lexemes are told by their canonical texts

Names and numerals are words, and a word is told by its text where it is not carried on.
A quoted string and a block string are told by what the lexer reads in them.  So each of
these lexemes is told by its text before any mark that neither carries on a word nor opens
with a quote.
-/

namespace GraphQL
namespace Source
namespace Canonical

open Text

/-! ## Words -/

/-- The text is a word: there is something in it, and nothing ends it. -/
structure IsWord (cs : List Char) : Prop where
  /-- There is something in it. -/
  notEmpty : cs ≠ []
  /-- All of its characters carry on a word. -/
  chars : ∀ c ∈ cs, isWordChar c = true

/-- The marks end a word and open with no quote. -/
def endWords (marks : List (List Char)) : Bool :=
  marks.all fun mark => mark.head?.any fun c => !isWordChar c && c ≠ '"'

theorem endWords_cons
    {mark : List Char}
    {marks : List (List Char)}
    (endsMark : endWords [mark] = true)
    (ends : endWords marks = true) :
    endWords (mark :: marks) = true := by
  rw [endWords, List.all_cons, Bool.and_eq_true]
  exact ⟨(List.all_eq_true.mp endsMark) mark List.mem_cons_self, ends⟩

theorem Starts.endsWord
    {marks : List (List Char)}
    {rest : List Char}
    (starts : Starts marks rest)
    (ends : endWords marks = true) :
    ∀ c ∈ rest.head?, isWordChar c = false ∧ c ≠ '"' := by
  obtain rfl | ⟨mark, present, more, rfl⟩ := starts
  · nofun
  · have endsMark := List.all_eq_true.mp ends mark present
    cases mark with
    | nil => cases endsMark
    | cons d ds =>
      rintro c ⟨⟩
      simpa using endsMark

/-- A word is read up to where it is not carried on. -/
theorem takeWhile_word
    {cs rest : List Char}
    (areChars : ∀ c ∈ cs, isWordChar c = true)
    (ends : ∀ c ∈ rest.head?, isWordChar c = false ∧ c ≠ '"') :
    (cs ++ rest).takeWhile isWordChar = cs := by
  rw [List.takeWhile_append_of_pos areChars]
  cases rest with
  | nil => simp
  | cons c rest => simp [(ends c rfl).1]

/-- What opens with a word does not open with a mark that ends one. -/
theorem not_starts_word
    {marks : List (List Char)}
    (ends : endWords marks = true)
    {cs : List Char}
    (isWord : IsWord cs)
    (rest : List Char) :
    ¬Starts marks (cs ++ rest) := by
  intro starts
  obtain ⟨c, cs, rfl⟩ := List.exists_cons_of_ne_nil isWord.notEmpty
  have isChar := isWord.chars c List.mem_cons_self
  rw [(starts.endsWord ends c rfl).1] at isChar
  cases isChar

theorem told_word
    {marks : List (List Char)}
    (ends : endWords marks = true)
    {text : String}
    (isWord : IsWord text.toList) :
    Told String.toList (fun text => IsWord text.toList) marks text := by
  intro other rest left isWordToo starts startsLeft same
  have sameText : text.toList = other.toList := by
    rw [← takeWhile_word isWord.chars (starts.endsWord ends), same,
      takeWhile_word isWordToo.chars (startsLeft.endsWord ends)]
  rw [sameText] at same
  exact ⟨String.toList_inj.mp sameText, List.append_cancel_left same⟩

theorem isWord_of_isName
    {text : String}
    (isName : Name.IsName text) :
    IsWord text.toList := by
  cases chars : text.toList with
  | nil => simp [Name.IsName, chars, Name.isName] at isName
  | cons c cs =>
    obtain ⟨start, continues⟩ :
        Name.isStart c = true ∧ ∀ d ∈ cs, Name.isContinue d = true := by
      simpa [Name.IsName, chars, Name.isName] using isName
    refine ⟨by simp, List.forall_mem_cons.mpr ⟨?_, fun d present => ?_⟩⟩
    · simp [isWordChar, Name.isContinue_of_isStart start]
    · simp [isWordChar, continues d present]

/-- A genuine name is told by its text where it is not carried on. -/
theorem told_name
    {marks : List (List Char)}
    (ends : endWords marks = true)
    {text : String}
    (isGenuine : Lexeme.Genuine (.name text)) :
    Told String.toList (fun text => Lexeme.Genuine (.name text)) marks text :=
  fun _ _ _ isGenuineToo => told_word ends (isWord_of_isName isGenuine)
    (isWord_of_isName isGenuineToo)

/-! ## Lexemes -/

/-- The canonical text of a lexeme that stands for a name or a value. -/
def leafText : Lexeme → List Char
  | .name text | .int text | .float text => text.toList
  | .string text => (stringText text false).toList
  | .blockString text => (stringText text true).toList
  | .punctuator _ | .endOfText => []

/-- The lexeme is a name, a numeral or a string, and genuine. -/
structure IsLeaf (lexeme : Lexeme) : Prop where
  /-- The lexeme is genuine. -/
  genuine : lexeme.Genuine
  /-- The lexeme carries a text. -/
  carries : lexeme.value?.isSome = true

/-- The name or numeral with a text. -/
def wordLexeme (cs : List Char) : Lexeme :=
  if cs.head?.any isNumeralStart then
    if cs.any isFloatMark then .float (String.ofList cs) else .int (String.ofList cs)
  else .name (String.ofList cs)

theorem wordLexeme_of_isName
    {text : String}
    (isName : Name.IsName text) :
    wordLexeme text.toList = .name text := by
  have otherwise : text.toList.head?.any isNumeralStart = false := by
    cases chars : text.toList with
    | nil => rfl
    | cons c cs =>
      by_contra opens
      have starts : isNumeralStart c = true := by simpa using opens
      simp [Name.IsName, chars, Name.isName, isStart_of_isNumeralStart starts] at isName
  simp [wordLexeme, otherwise]

theorem wordLexeme_of_isInteger
    {text : String}
    (isInteger : IsInteger text.toList) :
    wordLexeme text.toList = .int text := by
  have opens : text.toList.head?.any isNumeralStart = true := by
    cases chars : text.toList with
    | nil => exact absurd chars isInteger.notEmpty
    | cons c cs => exact isInteger.chars c (by simp [chars])
  have unmarked : text.toList.any isFloatMark = false := by
    rw [List.any_eq_false]
    intro c present
    simp [isFloatMark_of_isNumeralStart (isInteger.chars c present)]
  simp [wordLexeme, opens, unmarked]

theorem wordLexeme_of_isFloat
    {text : String}
    (isFloat : IsFloat text.toList) :
    wordLexeme text.toList = .float text := by
  have marked : text.toList.any isFloatMark = true := List.any_eq_true.mpr isFloat.marked
  simp [wordLexeme, isFloat.opens, marked]

theorem isLeaf_name
    {text : String}
    (isGenuine : Lexeme.Genuine (.name text)) :
    IsLeaf (.name text) :=
  ⟨isGenuine, rfl⟩

/-- A leaf is a word that it is known from, a string or a trimmed block string. -/
theorem IsLeaf.cases
    {lexeme : Lexeme}
    (isLeaf : IsLeaf lexeme) :
    (IsWord (leafText lexeme) ∧ wordLexeme (leafText lexeme) = lexeme) ∨
      (∃ value, lexeme = .string value) ∨
      ∃ value, lexeme = .blockString value ∧ Block.Trimmed value.toList := by
  obtain ⟨isGenuine, carries⟩ := isLeaf
  cases lexeme with
  | punctuator mark => cases carries
  | name text =>
    exact .inl ⟨isWord_of_isName isGenuine, wordLexeme_of_isName isGenuine⟩
  | int text =>
    refine .inl ⟨⟨IsInteger.notEmpty isGenuine, fun c present => ?_⟩,
      wordLexeme_of_isInteger isGenuine⟩
    exact isWordChar_of_isNumeralStart (IsInteger.chars isGenuine c present)
  | float text =>
    refine .inl ⟨⟨fun isEmpty => ?_, IsFloat.chars isGenuine⟩, wordLexeme_of_isFloat isGenuine⟩
    have opens := IsFloat.opens isGenuine
    rw [show text.toList = [] from isEmpty] at opens
    cases opens
  | string value => exact .inr (.inl ⟨value, rfl⟩)
  | blockString value => exact .inr (.inr ⟨value, rfl, isGenuine⟩)
  | endOfText => cases carries

/-! ## Strings -/

theorem isAnyControl_basic
    {c : Char}
    (control : Quoted.isAnyControl c = true) :
    c.toNat < 0x10000 := by
  simp only [Quoted.isAnyControl, Bool.or_eq_true, Bool.and_eq_true, decide_eq_true_eq] at control
  omega

theorem leafText_string (value : String) :
    leafText (.string value) = Quoted.quote Quoted.isAnyControl value.toList := by
  simp [leafText, stringText, Quoted.encodeCanonical]

theorem leafText_blockString (value : String) :
    leafText (.blockString value) = Block.literal value.toList := by
  simp [leafText, stringText]

/-- The canonical text of a string is read as the string before anything but a quote. -/
theorem lexeme_string
    {rest : List Char}
    (apart : rest.head? ≠ some '"')
    (value : String) :
    Lexer.lexeme (leafText (.string value) ++ rest) = .ok (.string value, rest) := by
  rw [leafText_string, Quoted.lexeme_quote (fun _ => isAnyControl_basic) (.inr apart),
    String.ofList_toList]

/-- The canonical text of a block string is no string. -/
theorem lexeme_blockString (value : String) (rest : List Char) :
    ∃ other, Lexer.lexeme (leafText (.blockString value) ++ rest) =
      .ok (.blockString other, rest) := by
  rw [leafText_blockString, Block.literal_eq]
  simp only [List.cons_append, List.append_assoc, List.nil_append]
  rw [Lexer.lexeme, Block.blockBody_framed]
  exact ⟨_, rfl⟩

/-- No word opens with a quote, as strings do. -/
theorem IsWord.append_ne_quote
    {cs : List Char}
    (isWord : IsWord cs)
    (rest more : List Char) :
    cs ++ rest ≠ '"' :: more := by
  obtain ⟨c, cs, rfl⟩ := List.exists_cons_of_ne_nil isWord.notEmpty
  rintro same
  obtain ⟨rfl, -⟩ := List.cons.inj same
  exact absurd (isWord.chars '"' List.mem_cons_self) (by decide)

theorem exists_leafText_eq_quote (value : String) :
    (∃ more, leafText (.string value) = '"' :: more) ∧
      ∃ more, leafText (.blockString value) = '"' :: more := by
  rw [leafText_string, leafText_blockString, Block.literal_eq, Quoted.quote]
  exact ⟨⟨_, rfl⟩, _, rfl⟩

/-- A leaf is told by its canonical text where neither a word is carried on nor a quote
follows. -/
theorem told_leaf
    {marks : List (List Char)}
    (ends : endWords marks = true)
    {lexeme : Lexeme}
    (isLeaf : IsLeaf lexeme) :
    Told leafText IsLeaf marks lexeme := by
  intro other rest left isLeafToo starts startsLeft same
  have noQuote {rest : List Char} (starts : Starts marks rest) : rest.head? ≠ some '"' :=
    fun quote => (starts.endsWord ends '"' quote).2 rfl
  -- A word opens with no quote, and what the lexer reads tells a string from a block string.
  obtain ⟨isWord, known⟩ | ⟨value, rfl⟩ | ⟨value, rfl, trimmed⟩ := isLeaf.cases
  · obtain ⟨isWordToo, knownToo⟩ | ⟨otherValue, rfl⟩ | ⟨otherValue, rfl, -⟩ := isLeafToo.cases
    · have sameText : leafText lexeme = leafText other := by
        rw [← takeWhile_word isWord.chars (starts.endsWord ends), same,
          takeWhile_word isWordToo.chars (startsLeft.endsWord ends)]
      refine ⟨by rw [← known, sameText, knownToo], ?_⟩
      rw [sameText] at same
      exact List.append_cancel_left same
    · obtain ⟨more, opens⟩ := (exists_leafText_eq_quote otherValue).1
      rw [opens] at same
      exact absurd same (isWord.append_ne_quote _ _)
    · obtain ⟨more, opens⟩ := (exists_leafText_eq_quote otherValue).2
      rw [opens] at same
      exact absurd same (isWord.append_ne_quote _ _)
  · have read := lexeme_string (noQuote starts) value
    rw [same] at read
    obtain ⟨isWordToo, -⟩ | ⟨otherValue, rfl⟩ | ⟨otherValue, rfl, -⟩ := isLeafToo.cases
    · obtain ⟨more, opens⟩ := (exists_leafText_eq_quote value).1
      rw [opens] at same
      exact absurd same.symm (isWordToo.append_ne_quote _ _)
    · rw [lexeme_string (noQuote startsLeft)] at read
      obtain ⟨sameLexeme, sameRest⟩ := Prod.mk.inj (Except.ok.inj read)
      exact ⟨sameLexeme.symm, sameRest.symm⟩
    · obtain ⟨found, readBlock⟩ := lexeme_blockString otherValue left
      rw [readBlock] at read
      cases (Prod.mk.inj (Except.ok.inj read)).1
  · obtain ⟨isWordToo, -⟩ | ⟨otherValue, rfl⟩ | ⟨otherValue, rfl, trimmedToo⟩ := isLeafToo.cases
    · obtain ⟨more, opens⟩ := (exists_leafText_eq_quote value).2
      rw [opens] at same
      exact absurd same.symm (isWordToo.append_ne_quote _ _)
    · obtain ⟨found, readBlock⟩ := lexeme_blockString value rest
      rw [same, lexeme_string (noQuote startsLeft)] at readBlock
      cases (Prod.mk.inj (Except.ok.inj readBlock)).1
    · rw [leafText_blockString, leafText_blockString] at same
      obtain ⟨sameValue, sameRest⟩ := Block.literal_append_inj trimmed trimmedToo same
      exact ⟨by rw [String.toList_inj.mp sameValue], sameRest⟩

end Canonical
end Source
end GraphQL
