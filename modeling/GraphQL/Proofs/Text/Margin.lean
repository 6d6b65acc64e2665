import GraphQL.Proofs.Text.Literal
import GraphQL.Proofs.Text.Lines

/-!
# Texts behind a margin

A text that is moved to the right has a margin of spaces before every line but the first.
Where the text is the raw text of a block string, the margin does not show in the value:
the lines behind the first one share it, so it is taken away with the rest of their common
indentation.
-/

namespace GraphQL
namespace Text

/-! ## Lines behind a margin -/

/-- There is nothing but spaces. -/
def IsMargin (cs : List Char) : Prop :=
  ∀ c ∈ cs, c = ' '

namespace IsMargin

variable {margin : List Char}

theorem not_mem
    (isMargin : IsMargin margin)
    {c : Char}
    (notSpace : c ≠ ' ') :
    c ∉ margin :=
  fun present => notSpace (isMargin c present)

theorem append
    {inner : List Char}
    (isMargin : IsMargin margin)
    (isMarginToo : IsMargin inner) :
    IsMargin (margin ++ inner) :=
  List.forall_mem_append.mpr ⟨isMargin, isMarginToo⟩

end IsMargin

namespace Lines

variable {margin : List Char}

@[simp] theorem indentRest_nil (cs : List Char) : indentRest [] cs = cs := by
  induction cs with
  | nil => rfl
  | cons c cs inductionHypothesis => simp [indentRest, inductionHypothesis]

/-- A text on one line is not moved. -/
theorem indentRest_of_not_mem
    {cs : List Char}
    (noLineFeed : '\n' ∉ cs)
    (margin : List Char) :
    indentRest margin cs = cs := by
  induction cs with
  | nil => rfl
  | cons c cs inductionHypothesis =>
    obtain ⟨other, others⟩ := List.ne_and_not_mem_of_not_mem_cons noLineFeed
    rw [indentRest, if_neg (Ne.symm other), inductionHypothesis others]

/-- A text that is moved twice has the outer margin before the inner one. -/
theorem indentRest_indentRest
    {inner : List Char}
    (noLineFeed : '\n' ∉ inner)
    (margin cs : List Char) :
    indentRest margin (indentRest inner cs) = indentRest (margin ++ inner) cs := by
  induction cs with
  | nil => rfl
  | cons c cs inductionHypothesis =>
    by_cases lineFeed : c = '\n'
    · simp [indentRest, lineFeed, inductionHypothesis, indentRest_of_not_mem noLineFeed]
    · simp [indentRest, lineFeed, inductionHypothesis]

theorem mem_of_mem_indentRest
    (isMargin : IsMargin margin)
    {c : Char}
    (notSpace : c ≠ ' ')
    {cs : List Char}
    (present : c ∈ indentRest margin cs) :
    c ∈ cs := by
  induction cs with
  | nil => exact present
  | cons d cs inductionHypothesis =>
    by_cases lineFeed : d = '\n'
    · simp only [indentRest, lineFeed, if_true, List.mem_cons, List.mem_append] at present ⊢
      rcases present with same | inMargin | later
      · exact .inl same
      · exact absurd inMargin (isMargin.not_mem notSpace)
      · exact .inr (inductionHypothesis later)
    · simp only [indentRest, lineFeed, if_false, List.mem_cons] at present ⊢
      exact present.imp id inductionHypothesis

/-- The last character of a moved text is that of the text, or a space. -/
theorem getLast?_indentRest
    (isMargin : IsMargin margin)
    {c : Char}
    (notSpace : c ≠ ' ')
    {cs : List Char}
    (last : (indentRest margin cs).getLast? = some c) :
    cs.getLast? = some c := by
  induction cs with
  | nil => cases last
  | cons d cs inductionHypothesis =>
    cases cs with
    | nil =>
      by_cases lineFeed : d = '\n'
      · subst lineFeed
        simp only [indentRest, if_true, List.append_nil, List.getLast?_cons] at last ⊢
        cases ends : margin.getLast? with
        | none => simpa [ends] using last
        | some e =>
          have isSpace := isMargin e (List.mem_of_getLast? ends)
          rw [ends] at last
          exact absurd ((Option.some.inj last).symm.trans isSpace) notSpace
      · simpa [indentRest, lineFeed] using last
    | cons e es =>
      rw [List.getLast?_cons_cons]
      apply inductionHypothesis
      have notEmpty : indentRest margin (e :: es) ≠ [] := by
        rw [indentRest]
        split <;> simp
      obtain ⟨front, f, rest⟩ := (List.eq_nil_or_concat' (indentRest margin (e :: es))).resolve_left
        notEmpty
      rw [rest, List.getLast?_concat]
      rw [indentRest, rest] at last
      split at last
      · rwa [← List.append_assoc, ← List.cons_append, List.getLast?_concat] at last
      · rwa [← List.cons_append, List.getLast?_concat] at last

/-! ### Source lines -/

theorem source_cons_of_inLine
    {c : Char}
    (notLineFeed : c ≠ '\n')
    (notReturn : c ≠ '\r')
    {cs first : List Char}
    {rest : List (List Char)}
    (split : source cs = first :: rest) :
    source (c :: cs) = (c :: first) :: rest := by
  rw [source.eq_3 _ _ fun _ isReturn => absurd isReturn notReturn]
  simp [notLineFeed, notReturn, split]

/-- What stands before a text without a line end belongs to its first line. -/
theorem source_append
    {front : List Char}
    (noLineFeed : '\n' ∉ front)
    (noReturn : '\r' ∉ front)
    {cs first : List Char}
    {rest : List (List Char)}
    (split : source cs = first :: rest) :
    source (front ++ cs) = (front ++ first) :: rest := by
  induction front with
  | nil => exact split
  | cons c front inductionHypothesis =>
    obtain ⟨notLineFeed, noLineFeed⟩ := List.ne_and_not_mem_of_not_mem_cons noLineFeed
    obtain ⟨notReturn, noReturn⟩ := List.ne_and_not_mem_of_not_mem_cons noReturn
    exact source_cons_of_inLine notLineFeed.symm notReturn.symm
      (inductionHypothesis noLineFeed noReturn)

/-- The text has a first line. -/
theorem exists_source_eq_cons (cs : List Char) : ∃ first rest, source cs = first :: rest :=
  List.exists_cons_of_ne_nil (source_ne_nil cs)

/-- Every line of a moved text but the first has the margin before it. -/
theorem source_indentRest
    (isMargin : IsMargin margin)
    {cs first : List Char}
    {rest : List (List Char)}
    (noReturn : '\r' ∉ cs)
    (split : source cs = first :: rest) :
    source (indentRest margin cs) = first :: rest.map (margin ++ ·) := by
  induction cs generalizing first rest with
  | nil =>
    obtain ⟨rfl, rfl⟩ := List.cons.inj split
    rfl
  | cons c cs inductionHypothesis =>
    obtain ⟨notReturn, noReturn⟩ := List.ne_and_not_mem_of_not_mem_cons noReturn
    obtain ⟨next, others, splitRest⟩ := exists_source_eq_cons cs
    have moved := inductionHypothesis noReturn splitRest
    by_cases lineFeed : c = '\n'
    · subst lineFeed
      have splitToo : source ('\n' :: cs) = [] :: source cs := by simp [source]
      rw [splitToo, splitRest] at split
      obtain ⟨rfl, rfl⟩ := List.cons.inj split
      have movedToo := source_append (isMargin.not_mem (by decide)) (isMargin.not_mem (by decide))
        moved
      simp [indentRest, source, movedToo]
    · rw [source_cons_of_inLine lineFeed notReturn.symm splitRest] at split
      obtain ⟨rfl, rfl⟩ := List.cons.inj split
      rw [indentRest, if_neg lineFeed, source_cons_of_inLine lineFeed notReturn.symm moved]

/-- A line feed at the end of a text opens one more line. -/
theorem source_concat_lineFeed
    {cs : List Char}
    (noReturn : '\r' ∉ cs) :
    source (cs ++ ['\n']) = source cs ++ [[]] := by
  induction cs with
  | nil => rfl
  | cons c cs inductionHypothesis =>
    obtain ⟨notReturn, noReturn⟩ := List.ne_and_not_mem_of_not_mem_cons noReturn
    obtain ⟨first, rest, split⟩ := exists_source_eq_cons cs
    have grown := inductionHypothesis noReturn
    by_cases lineFeed : c = '\n'
    · simp [lineFeed, source, grown]
    · rw [split, List.cons_append] at grown
      rw [List.cons_append, source_cons_of_inLine lineFeed notReturn.symm grown,
        source_cons_of_inLine lineFeed notReturn.symm split, List.cons_append]

/-- The text holds a line feed if it has several lines, unless a carriage return ends them. -/
theorem source_of_not_mem
    {cs : List Char}
    (noLineFeed : '\n' ∉ cs)
    (noReturn : '\r' ∉ cs) :
    source cs = [cs] := by
  have split : source [] = [] :: [] := rfl
  simpa using source_append noLineFeed noReturn split

/-! ### Reading lines -/

theorem reading_ne_nil
    {cs : List Char}
    (notEmpty : cs ≠ []) :
    reading cs ≠ [] := by
  fun_cases reading cs <;> simp_all

/-- A line feed before the end of a text is the end of a line. -/
theorem one_lt_length_reading
    {cs : List Char}
    (present : '\n' ∈ cs)
    (notLast : cs.getLast? ≠ some '\n') :
    1 < (reading cs).length := by
  have more {cs : List Char} (notEmpty : cs ≠ []) : 1 < (reading cs).length + 1 := by
    have positive := List.length_pos_iff.mpr (reading_ne_nil notEmpty)
    omega
  fun_induction reading cs with
  | case1 => cases present
  | case2 cs =>
    refine more ?_
    rintro rfl
    exact notLast rfl
  | case3 c cs notPair boundary =>
    refine more ?_
    rintro rfl
    obtain rfl := List.mem_singleton.mp present
    exact notLast rfl
  | case4 c cs notPair inLine none inductionHypothesis =>
    have isEmpty : cs = [] := Classical.byContradiction fun notEmpty => reading_ne_nil notEmpty none
    subst isEmpty
    obtain rfl := List.mem_singleton.mp present
    exact absurd rfl inLine
  | case5 c cs notPair inLine line lines shape inductionHypothesis =>
    have later : '\n' ∈ cs := by
      rcases List.mem_cons.mp present with rfl | later
      · exact absurd rfl inLine
      · exact later
    have counted := inductionHypothesis later (Block.getLast?_ne_of_cons notLast)
    simpa [shape] using counted

end Lines

namespace Block

variable {margin : List Char}

/-! ## Indentation -/

theorem isBlankLine_margin_append
    (isMargin : IsMargin margin)
    (line : List Char) :
    isBlankLine (margin ++ line) = isBlankLine line := by
  have blank : margin.all isBlankChar = true :=
    List.all_eq_true.mpr fun c present => by rw [isMargin c present]; rfl
  rw [isBlankLine, List.all_append, blank, Bool.true_and, isBlankLine]

theorem indentation_margin_append
    (isMargin : IsMargin margin)
    (line : List Char) :
    indentation (margin ++ line) = margin.length + indentation line := by
  have blank : ∀ c ∈ margin, isBlankChar c = true :=
    fun c present => by rw [isMargin c present]; rfl
  rw [indentation, List.takeWhile_append_of_pos blank, List.length_append, indentation]

/-- Lines behind a margin share it with their own indentation. -/
theorem commonIndentation_map_append
    (isMargin : IsMargin margin)
    (lines : List (List Char)) :
    commonIndentation (lines.map (margin ++ ·)) =
      (commonIndentation lines).map (margin.length + ·) := by
  induction lines with
  | nil => rfl
  | cons line lines inductionHypothesis =>
    rw [List.map_cons, commonIndentation, commonIndentation, isBlankLine_margin_append isMargin,
      indentation_margin_append isMargin, inductionHypothesis]
    split
    · rfl
    · cases commonIndentation lines with
      | none => rfl
      | some width => simp [Nat.add_min_add_left]

/-- The lines with content. -/
def contents (lines : List (List Char)) : List (List Char) :=
  lines.filter fun line => !isBlankLine line

/-- Blank lines do not count for the indentation that lines share. -/
theorem commonIndentation_contents (lines : List (List Char)) :
    commonIndentation (contents lines) = commonIndentation lines := by
  induction lines with
  | nil => rfl
  | cons line lines inductionHypothesis =>
    unfold contents at inductionHypothesis ⊢
    cases isBlank : isBlankLine line with
    | true => simpa [commonIndentation, isBlank] using inductionHypothesis
    | false => simp [commonIndentation, isBlank, inductionHypothesis]

theorem commonIndentation_eq_none_iff (lines : List (List Char)) :
    commonIndentation lines = none ↔ contents lines = [] := by
  rw [← commonIndentation_contents]
  constructor
  · intro none
    cases kept : contents lines with
    | nil => rfl
    | cons line others =>
      have isContent : isBlankLine line = false := by
        have among : line ∈ contents lines := by simp [kept]
        simpa using (List.mem_filter.mp among).2
      rw [kept, commonIndentation, if_neg (by simp [isContent])] at none
      split at none <;> cases none
  · intro isEmpty
    rw [isEmpty]
    rfl

theorem contents_dropWhile (lines : List (List Char)) :
    contents (lines.dropWhile isBlankLine) = contents lines := by
  induction lines with
  | nil => rfl
  | cons line lines inductionHypothesis =>
    unfold contents at inductionHypothesis ⊢
    cases isBlank : isBlankLine line <;> simp [isBlank, inductionHypothesis]

/-- Trimming leaves the lines with content. -/
theorem contents_trimBlank (lines : List (List Char)) :
    contents (trimBlank lines) = contents lines := by
  rw [trimBlank, contents, List.filter_reverse, ← contents, contents_dropWhile, contents,
    List.filter_reverse, List.reverse_reverse, ← contents, contents_dropWhile]

theorem isBlankLine_drop_of_isBlankLine
    {line : List Char}
    (isBlank : isBlankLine line = true)
    (width : Nat) :
    isBlankLine (line.drop width) = true :=
  List.all_eq_true.mpr fun c present =>
    List.all_eq_true.mp isBlank c (List.mem_of_mem_drop present)

theorem indentation_drop
    {line : List Char}
    {width : Nat}
    (fits : width ≤ indentation line) :
    indentation (line.drop width) = indentation line - width := by
  induction width generalizing line with
  | zero => simp
  | succ width inductionHypothesis =>
    cases line with
    | nil => simp [indentation] at fits
    | cons c cs =>
      by_cases isBlank : isBlankChar c = true
      · have shorter : indentation (c :: cs) = indentation cs + 1 := by
          simp [indentation, isBlank]
        rw [shorter] at fits ⊢
        rw [List.drop_succ_cons, inductionHypothesis (by omega)]
        omega
      · simp [indentation, isBlank] at fits

/-- Lines lose what is taken from the indentation that they share. -/
theorem commonIndentation_map_drop
    {lines : List (List Char)}
    {width : Nat}
    (shared : commonIndentation lines = some width)
    {less : Nat}
    (fits : less ≤ width) :
    commonIndentation (lines.map (List.drop less)) = some (width - less) := by
  have blank {lines : List (List Char)} (allBlank : commonIndentation lines = none) :
      commonIndentation (lines.map (List.drop less)) = none := by
    rw [commonIndentation_eq_none_iff, contents, List.filter_eq_nil_iff] at allBlank ⊢
    rintro line present
    obtain ⟨longer, among, rfl⟩ := List.mem_map.mp present
    have isBlank : isBlankLine longer = true := by simpa using allBlank longer among
    simp [isBlankLine_drop_of_isBlankLine isBlank]
  induction lines generalizing width with
  | nil => cases shared
  | cons line lines inductionHypothesis =>
    rw [commonIndentation] at shared
    rw [List.map_cons, commonIndentation]
    cases isBlank : isBlankLine line with
    | true =>
      rw [if_pos isBlank] at shared
      rw [if_pos (isBlankLine_drop_of_isBlankLine isBlank less)]
      exact inductionHypothesis shared fits
    | false =>
      rw [if_neg (by simp [isBlank])] at shared
      cases sharedRest : commonIndentation lines with
      | none =>
        rw [sharedRest] at shared
        obtain rfl := Option.some.inj shared
        rw [if_neg (by simp [isBlankLine_drop isBlank fits]), blank sharedRest,
          indentation_drop fits]
      | some widthRest =>
        rw [sharedRest] at shared
        have smaller : min (indentation line) widthRest = width := Option.some.inj shared
        rw [if_neg (by simp [isBlankLine_drop isBlank (by omega : less ≤ indentation line)]),
          inductionHypothesis sharedRest (by omega), indentation_drop (by omega)]
        simp only [Option.some.injEq]
        omega

/-- Nothing is left of blank lines. -/
theorem trimBlank_cons_of_blank
    (first : List Char)
    {rest : List (List Char)}
    (blank : contents rest = []) :
    trimBlank (first :: rest) = if isBlankLine first then [] else [first] := by
  have allBlank : ∀ line ∈ rest, isBlankLine line = true := by
    simpa [contents, List.filter_eq_nil_iff] using blank
  have dropped : ∀ {lines : List (List Char)}, (∀ line ∈ lines, isBlankLine line = true) →
      lines.dropWhile isBlankLine = [] := by
    intro lines all
    rwa [List.dropWhile_eq_nil_iff]
  rw [trimBlank]
  cases isBlank : isBlankLine first with
  | true =>
    rw [List.dropWhile_cons_of_pos isBlank, dropped allBlank]
    rfl
  | false =>
    have allBlankToo : ∀ line ∈ rest.reverse, isBlankLine line = true := by simpa using allBlank
    rw [List.dropWhile_cons_of_neg (by simp [isBlank]), List.reverse_cons,
      List.dropWhile_append_of_pos allBlankToo, List.dropWhile_cons_of_neg (by simp [isBlank])]
    rfl

/-- The value does not show a margin before every line but the first. -/
theorem value_indentRest
    (isMargin : IsMargin margin)
    {raw : List Char}
    (noReturn : '\r' ∉ raw) :
    value (Lines.indentRest margin raw) = value raw := by
  obtain ⟨first, rest, split⟩ := Lines.exists_source_eq_cons raw
  rw [value, value, split, Lines.source_indentRest isMargin noReturn split, valueLines, valueLines,
    unindent, unindent, commonIndentation_map_append isMargin]
  cases shared : commonIndentation rest with
  | none =>
    have blank := (commonIndentation_eq_none_iff rest).mp shared
    have blankToo : contents (rest.map (margin ++ ·)) = [] := by
      rw [← commonIndentation_eq_none_iff, commonIndentation_map_append isMargin, shared]
      rfl
    simp only [Option.map_none]
    rw [trimBlank_cons_of_blank first blank, trimBlank_cons_of_blank first blankToo]
  | some width =>
    simp only [Option.map_some, List.map_map]
    congr 3
    refine List.map_congr_left fun line _ => ?_
    rw [Function.comp_apply, ← List.drop_drop, List.drop_left]

/-! ## Escaped texts -/

theorem escape_append
    {front : List Char}
    (noQuote : '"' ∉ front)
    (cs : List Char) :
    escape (front ++ cs) = front ++ escape cs := by
  induction front with
  | nil => rfl
  | cons c front inductionHypothesis =>
    obtain ⟨other, others⟩ := List.ne_and_not_mem_of_not_mem_cons noQuote
    rw [List.cons_append, escape.eq_2 _ _ fun _ isQuote => absurd isQuote.symm other,
      inductionHypothesis others, List.cons_append]

/-- A margin makes no group of quotes. -/
theorem exists_of_indentRest_eq_quotes
    {cs rest : List Char}
    (opens : Lines.indentRest margin cs = '"' :: '"' :: rest) :
    ∃ more, cs = '"' :: '"' :: more := by
  have quoted {cs rest : List Char} (opens : Lines.indentRest margin cs = '"' :: rest) :
      ∃ more, cs = '"' :: more ∧ Lines.indentRest margin more = rest := by
    cases cs with
    | nil => cases opens
    | cons c cs =>
      by_cases lineFeed : c = '\n'
      · simp [Lines.indentRest, lineFeed] at opens
      · rw [Lines.indentRest, if_neg lineFeed] at opens
        obtain ⟨rfl, same⟩ := List.cons.inj opens
        exact ⟨cs, rfl, same⟩
  obtain ⟨more, rfl, opensToo⟩ := quoted opens
  obtain ⟨most, rfl, -⟩ := quoted opensToo
  exact ⟨most, rfl⟩

/-- A margin is put before the lines of an escaped text as before those of the text. -/
theorem escape_indentRest
    (isMargin : IsMargin margin)
    (cs : List Char) :
    escape (Lines.indentRest margin cs) = Lines.indentRest margin (escape cs) := by
  fun_induction escape cs with
  | case1 cs inductionHypothesis => simp [Lines.indentRest, escape, inductionHypothesis]
  | case2 c cs notGroup inductionHypothesis =>
    by_cases lineFeed : c = '\n'
    · simp [Lines.indentRest, lineFeed, escape, escape_append (isMargin.not_mem (by decide)),
        inductionHypothesis]
    · rw [Lines.indentRest, if_neg lineFeed, Lines.indentRest, if_neg lineFeed, escape.eq_2,
        inductionHypothesis]
      intro rest isQuote opens
      obtain ⟨more, rfl⟩ := exists_of_indentRest_eq_quotes opens
      exact notGroup more isQuote rfl
  | case3 => rfl

end Block
end Text
end GraphQL
