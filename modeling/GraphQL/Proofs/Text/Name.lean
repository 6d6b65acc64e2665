import GraphQL.Proofs.Source.Spelling
import Mathlib.Tactic.ByContra

/-!
# The gate for names

`accepts_iff` says exactly which texts pass the gate: names, and names with one line
feed behind them.  Either way the text reads as a single name token.  The value of
that token is the stem of the text, its part before the line feed.
-/

namespace GraphQL
namespace Text
namespace Name

open Source

/-- The text without one line feed at its end. -/
def stem (text : String) : String :=
  String.ofList (dropFinalLineFeed text.toList)

theorem isName_append_lineFeed (cs : List Char) : isName (cs ++ ['\n']) = false := by
  cases cs with
  | nil => rfl
  | cons c cs => simp [isName, not_isContinue_lineFeed]

theorem stem_of_isName
    {text : String}
    (name : IsName text) :
    stem text = text := by
  have noLineFeed : text.toList.getLast? ≠ some '\n' := by
    intro last
    obtain ⟨cs, chars⟩ := List.getLast?_eq_some_iff.mp last
    rw [IsName, chars, isName_append_lineFeed] at name
    exact Bool.false_ne_true name
  simp [stem, dropFinalLineFeed, noLineFeed]

theorem stem_append_lineFeed (text : String) : stem (text ++ "\n") = text := by
  simp [stem, dropFinalLineFeed]

theorem accepts_eq_isName_stem (text : String) :
    accepts text = true ↔ IsName (stem text) := by
  simp [accepts, IsName, stem]

/-- A text that passes the gate is its stem, perhaps with a line feed behind it. -/
theorem eq_stem_or (text : String) :
    text = stem text ∨ text = stem text ++ "\n" := by
  by_cases last : text.toList.getLast? = some '\n'
  · right
    obtain ⟨cs, chars⟩ := List.getLast?_eq_some_iff.mp last
    apply String.toList_injective
    simp [stem, dropFinalLineFeed, chars]
  · left
    simp [stem, dropFinalLineFeed, last]

/-- The text is a name, perhaps with one line feed behind it. -/
def IsNameLine (text : String) : Prop :=
  IsName text ∨ ∃ name, IsName name ∧ text = name ++ "\n"

/-- The gate lets through the names, and the names with one line feed behind. -/
theorem accepts_iff (text : String) : accepts text = true ↔ IsNameLine text := by
  rw [accepts_eq_isName_stem, IsNameLine]
  constructor
  · intro isName
    rcases eq_stem_or text with same | lineFeed
    · left
      rwa [same]
    · exact .inr ⟨stem text, isName, lineFeed⟩
  · rintro (isName | ⟨name, isName, rfl⟩)
    · rwa [stem_of_isName isName]
    · rwa [stem_append_lineFeed]

theorem accepts_of_isName
    {text : String}
    (name : IsName text) :
    accepts text = true :=
  (accepts_iff text).mpr (.inl name)

/-- Without a line feed, the gate lets through exactly the names. -/
theorem accepts_eq_isName
    {text : String}
    (noLineFeed : '\n' ∉ text.toList) :
    accepts text = decide (IsName text) := by
  rw [Bool.eq_iff_iff, accepts_iff, decide_eq_true_eq]
  refine ⟨fun isLine => isLine.resolve_right ?_, .inl⟩
  rintro ⟨name, -, rfl⟩
  simp at noLineFeed

theorem stem_eq_self_iff
    {text : String}
    (accepted : accepts text = true) :
    stem text = text ↔ IsName text := by
  refine ⟨fun same => ?_, stem_of_isName⟩
  rw [← same]
  exact (accepts_eq_isName_stem text).mp accepted

/-- A text has another one for a stem exactly if a line feed is all that it has more. -/
theorem stem_eq_iff
    {text word : String}
    (different : text ≠ word) :
    stem text = word ↔ text = word ++ "\n" := by
  constructor
  · rintro rfl
    exact (eq_stem_or text).resolve_left different
  · rintro rfl
    exact stem_append_lineFeed word

/-! ## Reading names -/

theorem isDigit_of_isStart
    {c : Char}
    (start : isStart c = true) :
    c.isDigit = false := by
  by_contra digit
  simp only [isStart, Char.isDigit, Bool.or_eq_true, Bool.and_eq_true, decide_eq_true_eq,
    Bool.not_eq_false, ge_iff_le] at start digit
  simp only [Char.le_def, UInt32.le_iff_toNat_le, Char.ext_iff, ← UInt32.toNat_inj] at *
  simp at *
  omega

theorem ofChar?_of_isStart
    {c : Char}
    (start : isStart c = true) :
    Punctuator.ofChar? c = none := by
  have other : ∀ d, isStart d = false → ¬c = d := by
    rintro d notStart rfl
    exact Bool.false_ne_true (notStart.symm.trans start)
  simp (disch := decide) only [Punctuator.ofChar?, other, if_false]

theorem skipIgnored_of_isStart
    {c : Char}
    (start : isStart c = true)
    (cs : List Char) :
    Lexer.skipIgnored false (c :: cs) = c :: cs := by
  have notIgnored : Lexer.isIgnored c = false := by
    by_contra ignored
    simp only [Lexer.isIgnored, Bool.not_eq_false, Bool.or_eq_true, decide_eq_true_eq] at ignored
    rcases ignored with ((((rfl | rfl) | rfl) | rfl) | rfl) | rfl <;>
      exact absurd start (by decide)
  have notComment : c ≠ '#' := by
    rintro rfl
    exact absurd start (by decide)
  simp [Lexer.skipIgnored, notIgnored, notComment]

/-- A character that opens a name opens a name token. -/
theorem lexeme_of_isStart
    {c : Char}
    (start : isStart c = true)
    (cs : List Char) :
    Lexer.lexeme (c :: cs) =
      .ok (.name (String.ofList (c :: cs.takeWhile isContinue)), cs.dropWhile isContinue) := by
  have notQuote : c ≠ '"' := by
    rintro rfl
    exact absurd start (by decide)
  have notPoint : c ≠ '.' := by
    rintro rfl
    exact absurd start (by decide)
  have notMinus : c ≠ '-' := by
    rintro rfl
    exact absurd start (by decide)
  unfold Lexer.lexeme
  split
  · next same => simp at same
  · next same => simp_all
  · next same => simp_all
  · next same => simp_all
  · next same =>
    obtain ⟨rfl, rfl⟩ := List.cons.inj same
    simp [ofChar?_of_isStart start, isDigit_of_isStart start, notMinus, start,
      List.span_eq_takeWhile_dropWhile]

/-- A name is read up to where it is not carried on. -/
theorem lexed_append_of_isName
    {text : String}
    (name : IsName text)
    {rest : List Char}
    (ends : ∀ c, rest.head? = some c → isContinue c = false) :
    lexed (text.toList ++ rest) = .of [.name text] ++ lexed rest := by
  cases chars : text.toList with
  | nil => simp [IsName, chars, isName] at name
  | cons c cs =>
    obtain ⟨start, continues⟩ : isStart c = true ∧ ∀ d ∈ cs, isContinue d = true := by
      simpa [IsName, chars, isName] using name
    have split : rest.takeWhile isContinue = [] ∧ rest.dropWhile isContinue = rest := by
      cases rest with
      | nil => simp
      | cons d ds => simp [ends d rfl]
    rw [List.cons_append]
    apply lexed_of_lexeme (skipIgnored_of_isStart start _)
    · rw [lexeme_of_isStart start, List.takeWhile_append_of_pos continues,
        List.dropWhile_append_of_pos continues, split.1, split.2, List.append_nil, ← chars,
        String.ofList_toList]
    · simp

/-- A name spells the name token with that name for a value. -/
theorem spells_of_isName
    {text : String}
    (name : IsName text) :
    Spells text (.of [.name text]) := by
  intro rest broken
  refine lexed_append_of_isName name fun c first => ?_
  have breaks := broken c first
  simp only [isBreak, Bool.not_eq_true', Bool.or_eq_false_iff] at breaks
  exact breaks.1.1

/-- A text that passes the gate spells the name token with its stem for a value. -/
theorem spells_of_accepts
    {text : String}
    (accepted : accepts text = true) :
    Spells text (.of [.name (stem text)]) := by
  have isName := (accepts_eq_isName_stem text).mp accepted
  rcases eq_stem_or text with same | lineFeed
  · rw [← same] at isName ⊢
    exact spells_of_isName isName
  · have standsLineFeed : Stands "\n" (.of []) := .of_isIgnored (by decide)
    have opensLineFeed : Opens "\n" := by decide
    have spellsBoth :=
      (spells_of_isName isName).append standsLineFeed.spells opensLineFeed.parts
    rwa [← lineFeed, Lexed.append_of_nil] at spellsBoth

end Name
end Text
end GraphQL
