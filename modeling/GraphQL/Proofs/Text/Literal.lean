import GraphQL.Proofs.Text.Block
import Mathlib.Data.List.DropRight

/-!
# Block strings in canonical text

A block string in canonical text may open and close with a line of its own.  The value of a
block string has no line feed at either end, since blank lines there are dropped, and so it
is known from the raw text whether or not there are such lines.
-/

namespace GraphQL
namespace Text
namespace Block

open Source

/-! ## Trimmed texts -/

/-- The text neither opens nor ends with a line feed. -/
structure Trimmed (cs : List Char) : Prop where
  /-- The text does not open with a line feed. -/
  front : cs.head? ≠ some '\n'
  /-- The text does not end with a line feed. -/
  back : cs.getLast? ≠ some '\n'

/-- No line of source text holds a line feed. -/
theorem lineFeed_not_mem_source (cs : List Char) : ∀ line ∈ Lines.source cs, '\n' ∉ line := by
  fun_induction Lines.source cs with
  | case1 => simp
  | case2 cs inductionHypothesis => simpa using inductionHypothesis
  | case3 c cs _ _ inductionHypothesis => simpa using inductionHypothesis
  | case4 c cs _ notEnd none => exact absurd none (Lines.source_ne_nil cs)
  | case5 c cs _ notEnd line lines found inductionHypothesis =>
    rw [found] at inductionHypothesis
    obtain ⟨noneFirst, noneRest⟩ := List.forall_mem_cons.mp inductionHypothesis
    refine List.forall_mem_cons.mpr ⟨fun present => ?_, noneRest⟩
    obtain rfl | among := List.mem_cons.mp present
    · simp at notEnd
    · exact noneFirst among

theorem lineFeed_not_mem_unindent
    {lines : List (List Char)}
    (noLineFeed : ∀ line ∈ lines, '\n' ∉ line) :
    ∀ line ∈ unindent lines, '\n' ∉ line := by
  rw [unindent]
  split
  · exact noLineFeed
  · rintro line present
    obtain ⟨longer, among, rfl⟩ := List.mem_map.mp present
    exact fun kept => noLineFeed longer among (List.mem_of_mem_drop kept)

/-- The first of the lines that are left by trimming is not blank. -/
theorem isBlankLine_head_trimBlank
    {lines rest : List (List Char)}
    {first : List Char}
    (trimmed : trimBlank lines = first :: rest) :
    isBlankLine first = false := by
  have isPrefix : trimBlank lines <+: lines.dropWhile isBlankLine := List.rdropWhile_prefix _ _
  rw [trimmed] at isPrefix
  have head := List.head?_dropWhile_not isBlankLine lines
  obtain ⟨more, same⟩ := isPrefix
  rw [← same] at head
  simpa using head

/-- The last of the lines that are left by trimming is not blank. -/
theorem isBlankLine_last_trimBlank
    {lines front : List (List Char)}
    {last : List Char}
    (trimmed : trimBlank lines = front ++ [last]) :
    isBlankLine last = false := by
  have head := List.head?_dropWhile_not isBlankLine (lines.dropWhile isBlankLine).reverse
  have opens : ((lines.dropWhile isBlankLine).reverse.dropWhile isBlankLine) =
      last :: front.reverse := by
    rw [← List.reverse_reverse (List.dropWhile _ _), ← trimBlank, trimmed]
    simp
  rw [opens] at head
  simpa using head

theorem ne_nil_of_isBlankLine
    {line : List Char}
    (notBlank : isBlankLine line = false) :
    line ≠ [] := by
  rintro rfl
  cases notBlank

/-- Lines without line feeds, the first and the last of which are not blank, are joined to a
trimmed text. -/
theorem trimmed_joinLines_trimBlank
    {lines : List (List Char)}
    (noLineFeed : ∀ line ∈ lines, '\n' ∉ line) :
    Trimmed (joinLines (trimBlank lines)) := by
  have among {line : List Char} (present : line ∈ trimBlank lines) : '\n' ∉ line := by
    have isPrefix : trimBlank lines <+: lines.dropWhile isBlankLine := List.rdropWhile_prefix _ _
    exact noLineFeed line ((List.dropWhile_suffix _).subset (isPrefix.subset present))
  constructor
  · cases trimmed : trimBlank lines with
    | nil => simp [joinLines]
    | cons first rest =>
      have noneFirst : '\n' ∉ first := among (by simp [trimmed])
      cases first with
      | nil => exact absurd rfl (ne_nil_of_isBlankLine (isBlankLine_head_trimBlank trimmed))
      | cons c cs =>
        have other : c ≠ '\n' := fun same => noneFirst (by simp [same])
        cases rest with
        | nil => simpa [joinLines] using other
        | cons => simpa [joinLines] using other
  · obtain isEmpty | ⟨front, last, trimmed⟩ := List.eq_nil_or_concat' (trimBlank lines)
    · simp [isEmpty, joinLines]
    · have noneLast : '\n' ∉ last := among (by simp [trimmed])
      obtain isEmpty | ⟨init, c, rfl⟩ := List.eq_nil_or_concat' last
      · exact absurd isEmpty (ne_nil_of_isBlankLine (isBlankLine_last_trimBlank trimmed))
      · have other : c ≠ '\n' := fun same => noneLast (by simp [same])
        rw [trimmed, joinLines_append_singleton, List.getLast?_concat]
        simpa using other

/-- The value of a block string is trimmed. -/
theorem trimmed_value (raw : List Char) : Trimmed (value raw) := by
  have noLineFeed := lineFeed_not_mem_source raw
  rw [value]
  cases split : Lines.source raw with
  | nil => exact absurd split (Lines.source_ne_nil raw)
  | cons first rest =>
    rw [split] at noLineFeed
    obtain ⟨noneFirst, noneRest⟩ := List.forall_mem_cons.mp noLineFeed
    exact trimmed_joinLines_trimBlank
      (List.forall_mem_cons.mpr ⟨noneFirst, lineFeed_not_mem_unindent noneRest⟩)

/-! ## Literals -/

/-- What stands between the quotes of a literal, with the quotes in it unescaped. -/
def framed (cs : List Char) : List Char :=
  (if (Shape.of cs).breakBefore then ['\n'] else []) ++ cs ++
    if (Shape.of cs).breakAfter then ['\n'] else []

theorem literal_eq (cs : List Char) :
    literal cs = '"' :: '"' :: '"' :: (escape (framed cs) ++ ['"', '"', '"']) := by
  have opened (cs : List Char) : escape ('\n' :: cs) = '\n' :: escape cs := by simp [escape]
  have closed (cs : List Char) : escape (cs ++ ['\n']) = escape cs ++ ['\n'] :=
    escape_append_singleton (by decide) cs
  rw [literal, framed]
  split <;> split <;> simp [opened, closed]

theorem forceTrailing_eq (cs : List Char) :
    (Shape.of cs).forceTrailing =
      ((cs.getLast? = some '"' && !(Shape.of cs).trailingTriple) ||
        cs.getLast? = some '\\') := rfl

/-- What stands between the quotes does not run into the closing ones: a quote or a
backslash at its end is put on a line before them. -/
theorem getLast?_framed (cs : List Char) :
    (framed cs).getLast? ≠ some '"' ∧ (framed cs).getLast? ≠ some '\\' := by
  by_cases breaks : (Shape.of cs).breakAfter = true
  · simp [framed, breaks]
  · have ends {c : Char} (other : c ≠ '\n') (last : (framed cs).getLast? = some c) :
        cs.getLast? = some c := by
      rw [framed, if_neg breaks, List.append_nil, List.getLast?_append] at last
      cases inner : cs.getLast? with
      | some d => simpa [inner] using last
      | none =>
        rw [inner] at last
        split at last
        · exact absurd (Option.some.inj last).symm other
        · cases last
    constructor
    · intro last
      refine breaks ?_
      cases triple : (Shape.of cs).trailingTriple with
      | true => simp [Shape.breakAfter, Shape.multipleLines, triple]
      | false =>
        have forced : (Shape.of cs).forceTrailing = true := by
          rw [forceTrailing_eq, triple, ends (by decide) last]
          rfl
        simp [Shape.breakAfter, forced]
    · intro last
      refine breaks ?_
      have forced : (Shape.of cs).forceTrailing = true := by
        simp [forceTrailing_eq, ends (by decide) last]
      simp [Shape.breakAfter, forced]

/-- A literal is read up to its closing quotes. -/
theorem blockBody_framed (cs rest : List Char) :
    Lexer.blockBody (escape (framed cs) ++ '"' :: '"' :: '"' :: rest) = .ok (framed cs, rest) :=
  blockBody_escape (getLast?_framed cs).1 (getLast?_framed cs).2 rest

/-- The text without line feeds at its front and its end. -/
def strip (cs : List Char) : List Char :=
  (cs.dropWhile (· = '\n')).rdropWhile (· = '\n')

/-- A trimmed text is known from what stands between the quotes. -/
theorem strip_framed
    {cs : List Char}
    (trimmed : Trimmed cs) :
    strip (framed cs) = cs := by
  obtain rfl | ⟨init, last, split⟩ := List.eq_nil_or_concat' cs
  · rw [framed]
    split <;> split <;> rfl
  · obtain ⟨c, rest, opens⟩ := List.exists_cons_of_ne_nil (l := cs) (by simp [split])
    have notFirst : c ≠ '\n' := by simpa [opens] using trimmed.front
    have notLast : last ≠ '\n' := by simpa [split] using trimmed.back
    have front (after : List Char) : (cs ++ after).dropWhile (· = '\n') = cs ++ after := by
      simp [opens, notFirst]
    have back : cs.rdropWhile (· = '\n') = cs := by
      rw [split, List.rdropWhile_concat_neg _ _ _ (by simpa using notLast)]
    have frontToo : (framed cs).dropWhile (· = '\n') =
        cs ++ if (Shape.of cs).breakAfter then ['\n'] else [] := by
      rw [framed, List.append_assoc]
      split
      case isTrue => simpa using front _
      case isFalse => exact front _
    rw [strip, frontToo]
    split
    case isTrue => rw [List.rdropWhile_concat_pos _ _ _ (by simp), back]
    case isFalse => rw [List.append_nil, back]

/-- Two literals of trimmed texts are the same up to what follows only for the same text. -/
theorem literal_append_inj
    {cs ds rest left : List Char}
    (trimmed : Trimmed cs)
    (trimmedToo : Trimmed ds)
    (same : literal cs ++ rest = literal ds ++ left) :
    cs = ds ∧ rest = left := by
  simp only [literal_eq, List.cons_append, List.append_assoc, List.nil_append,
    List.cons.injEq, true_and] at same
  have read := blockBody_framed cs rest
  rw [same, blockBody_framed] at read
  obtain ⟨sameFramed, sameRest⟩ := Prod.mk.inj (Except.ok.inj read)
  refine ⟨?_, sameRest.symm⟩
  rw [← strip_framed trimmed, ← sameFramed, strip_framed trimmedToo]

end Block
end Text
end GraphQL
