import GraphQL.Proofs.Text.Margin

/-!
# Block strings read back from canonical text

Canonical text may put a line break before the value of a block string and another one
behind it.  The one behind does not show in the value that is read back.  But where a line
break is put before a value on a single source line, the blanks that open the line are taken
for indentation.  A value is steady if that does not happen to it; any other is steady once
it has been read back, without the blanks.
-/

namespace GraphQL
namespace Text
namespace Block

open Source

variable {margin : List Char}

/-! ## Values -/

/-- Lines of the value of a block string: neither the first nor the last is blank, and where
there are several, they share no indentation. -/
structure Dedented (lines : List (List Char)) : Prop where
  /-- The first line is not blank. -/
  first : ∀ line ∈ lines.head?, isBlankLine line = false
  /-- The last line is not blank. -/
  last : ∀ line ∈ lines.getLast?, isBlankLine line = false
  /-- Several lines share no indentation. -/
  shared : 1 < lines.length → commonIndentation lines = some 0

theorem dedented_valueLines (lines : List (List Char)) : Dedented (valueLines lines) := by
  cases lines with
  | nil => exact ⟨nofun, nofun, nofun⟩
  | cons first rest =>
    rw [valueLines]
    refine ⟨fun line opens => ?_, fun line ends => ?_, fun several => ?_⟩
    · obtain ⟨others, trimmed⟩ := List.head?_eq_some_iff.mp opens
      exact isBlankLine_head_trimBlank trimmed
    · obtain ⟨others, trimmed⟩ := List.getLast?_eq_some_iff.mp ends
      exact isBlankLine_last_trimBlank trimmed
    · cases shared : commonIndentation rest with
      | none =>
        have blank := (commonIndentation_eq_none_iff rest).mp shared
        rw [unindent, shared, trimBlank_cons_of_blank first blank] at several
        split at several <;> simp at several
      | some width =>
        have sharedRest : commonIndentation (rest.map (List.drop width)) = some 0 := by
          rw [commonIndentation_map_drop shared (Nat.le_refl _), Nat.sub_self]
        rw [← commonIndentation_contents, contents_trimBlank, commonIndentation_contents, unindent,
          shared]
        dsimp only
        rw [commonIndentation, sharedRest]
        split <;> simp

theorem isBlank_nil : ∀ line ∈ [([] : List Char)], isBlankLine line = true :=
  List.forall_mem_singleton.mpr rfl

theorem dedented_singleton
    {line : List Char}
    (isContent : isBlankLine line = false) :
    Dedented [line] :=
  ⟨by simpa using isContent, by simpa using isContent, by simp⟩

/-- Lines of a value stay behind blank lines and before others. -/
theorem Dedented.trimBlank_append
    {lines : List (List Char)}
    (dedented : Dedented lines)
    (notEmpty : lines ≠ [])
    {before after : List (List Char)}
    (blank : ∀ line ∈ before, isBlankLine line = true)
    (blankToo : ∀ line ∈ after, isBlankLine line = true) :
    trimBlank (before ++ (lines ++ after)) = lines := by
  obtain ⟨first, rest, opens⟩ := List.exists_cons_of_ne_nil notEmpty
  obtain ⟨front, last, ends⟩ := (List.eq_nil_or_concat' lines).resolve_left notEmpty
  have isContent : isBlankLine first = false := dedented.first first (by simp [opens])
  have isContentToo : isBlankLine last = false := dedented.last last (by simp [ends])
  have front : (before ++ (lines ++ after)).dropWhile isBlankLine = lines ++ after := by
    rw [List.dropWhile_append_of_pos blank, opens, List.cons_append,
      List.dropWhile_cons_of_neg (by simp [isContent])]
  have back : ∀ line ∈ after.reverse, isBlankLine line = true := by simpa using blankToo
  rw [trimBlank, front, List.reverse_append, List.dropWhile_append_of_pos back, ends,
    List.reverse_append, List.reverse_singleton, List.singleton_append,
    List.dropWhile_cons_of_neg (by simp [isContentToo]), List.reverse_cons, List.reverse_reverse]

/-- What is in no line of the raw text is in no line of the value. -/
theorem not_mem_valueLines
    {c : Char}
    {lines : List (List Char)}
    (absent : ∀ line ∈ lines, c ∉ line) :
    ∀ line ∈ valueLines lines, c ∉ line := by
  have kept {lines : List (List Char)} {line : List Char} (present : line ∈ trimBlank lines) :
      line ∈ lines := by
    have isPrefix : trimBlank lines <+: lines.dropWhile isBlankLine := List.rdropWhile_prefix _ _
    exact (List.dropWhile_suffix _).subset (isPrefix.subset present)
  cases lines with
  | nil => nofun
  | cons first rest =>
    obtain ⟨absentFirst, absentRest⟩ := List.forall_mem_cons.mp absent
    rintro line present
    obtain rfl | later := List.mem_cons.mp (kept present)
    · exact absentFirst
    · rw [unindent] at later
      split at later
      · exact absentRest line later
      · obtain ⟨longer, among, rfl⟩ := List.mem_map.mp later
        exact fun left => absentRest longer among (List.mem_of_mem_drop left)

/-- No line of source text holds a carriage return. -/
theorem carriageReturn_not_mem_source (cs : List Char) :
    ∀ line ∈ Lines.source cs, '\r' ∉ line := by
  rw [← Lines.source_unify]
  have noReturn := Lines.carriageReturn_not_mem_unify cs
  generalize Lines.unify cs = unified at noReturn
  induction unified with
  | nil => simp [Lines.source]
  | cons c cs inductionHypothesis =>
    obtain ⟨notReturn, noReturn⟩ := List.ne_and_not_mem_of_not_mem_cons noReturn
    have others := inductionHypothesis noReturn
    obtain ⟨first, rest, split⟩ := Lines.exists_source_eq_cons cs
    by_cases lineFeed : c = '\n'
    · simpa [lineFeed, Lines.source] using others
    · rw [split] at others
      rw [Lines.source_cons_of_inLine lineFeed notReturn.symm split]
      obtain ⟨absentFirst, absentRest⟩ := List.forall_mem_cons.mp others
      refine List.forall_mem_cons.mpr ⟨?_, absentRest⟩
      simpa [notReturn] using absentFirst

/-- Joined lines are the lines of the text. -/
theorem source_joinLines
    {lines : List (List Char)}
    (notEmpty : lines ≠ [])
    (noLineFeed : ∀ line ∈ lines, '\n' ∉ line)
    (noReturn : ∀ line ∈ lines, '\r' ∉ line) :
    Lines.source (joinLines lines) = lines := by
  induction lines with
  | nil => exact absurd rfl notEmpty
  | cons line lines inductionHypothesis =>
    obtain ⟨noLineFeedFirst, noLineFeed⟩ := List.forall_mem_cons.mp noLineFeed
    obtain ⟨noReturnFirst, noReturn⟩ := List.forall_mem_cons.mp noReturn
    cases lines with
    | nil => exact Lines.source_of_not_mem noLineFeedFirst noReturnFirst
    | cons next lines =>
      have split := inductionHypothesis (by simp) noLineFeed noReturn
      have opened : Lines.source ('\n' :: joinLines (next :: lines)) = [] :: next :: lines := by
        simpa [Lines.source] using split
      simpa [joinLines] using Lines.source_append noLineFeedFirst noReturnFirst opened

/-- What is in joined lines is in one of them or between two. -/
theorem exists_of_mem_joinLines
    {c : Char}
    {lines : List (List Char)}
    (present : c ∈ joinLines lines) :
    c = '\n' ∨ ∃ line ∈ lines, c ∈ line := by
  induction lines with
  | nil => cases present
  | cons line lines inductionHypothesis =>
    cases lines with
    | nil => exact .inr ⟨line, List.mem_cons_self, present⟩
    | cons next lines =>
      rw [joinLines, List.mem_append, List.mem_cons] at present
      rcases present with inLine | between | later
      · exact .inr ⟨line, List.mem_cons_self, inLine⟩
      · exact .inl between
      · rcases inductionHypothesis later with isLineFeed | ⟨other, among, within⟩
        · exact .inl isLineFeed
        · exact .inr ⟨other, List.mem_cons_of_mem _ among, within⟩
      · simp

/-- The text is the value of a block string. -/
def IsValue (cs : List Char) : Prop :=
  ∃ raw, value raw = cs

namespace IsValue

variable {cs : List Char}

/-- There is nothing in a value, or its lines are those of a value. -/
theorem dedented
    (isValue : IsValue cs)
    (notEmpty : cs ≠ []) :
    Dedented (Lines.source cs) := by
  obtain ⟨raw, rfl⟩ := isValue
  have someLine : valueLines (Lines.source raw) ≠ [] := by
    intro none
    rw [value, none] at notEmpty
    exact notEmpty rfl
  rw [value, source_joinLines someLine
    (not_mem_valueLines (lineFeed_not_mem_source raw))
    (not_mem_valueLines (carriageReturn_not_mem_source raw))]
  exact dedented_valueLines _

theorem trimmed
    (isValue : IsValue cs) :
    Trimmed cs := by
  obtain ⟨raw, rfl⟩ := isValue
  exact trimmed_value raw

theorem noReturn
    (isValue : IsValue cs) :
    '\r' ∉ cs := by
  obtain ⟨raw, rfl⟩ := isValue
  intro present
  rcases exists_of_mem_joinLines present with isLineFeed | ⟨line, among, within⟩
  · cases isLineFeed
  · exact not_mem_valueLines (carriageReturn_not_mem_source raw) line among within

end IsValue

/-! ## What is read back -/

/-- The value is read back as it is: it does not open with a blank, or it is not spread over
several lines, or it has several lines by its own line feeds. -/
def isSteady (cs : List Char) : Bool :=
  !(Shape.of cs).opensBlank || (Shape.of cs).singleLine || cs.contains '\n'

/-- What a value becomes when it is read back: it loses the blanks that open it, unless it is
steady. -/
def settle (cs : List Char) : List Char :=
  if isSteady cs then cs else cs.dropWhile isBlankChar

/-- What has been read back once stays as it is. -/
theorem isSteady_settle (cs : List Char) : isSteady (settle cs) = true := by
  rw [settle]
  split
  · assumption
  · have other : (cs.dropWhile isBlankChar).head?.any isBlankChar = false := by
      have head := List.head?_dropWhile_not isBlankChar cs
      cases opens : (cs.dropWhile isBlankChar).head? with
      | none => rfl
      | some c => simpa [opens] using head
    simp [isSteady, Shape.of, other]

theorem isSteady_of_mem
    {cs : List Char}
    (present : '\n' ∈ cs) :
    isSteady cs = true := by
  simp [isSteady, present]

theorem mem_escape
    {c : Char}
    {cs : List Char}
    (present : c ∈ cs) :
    c ∈ escape cs := by
  fun_induction escape cs with
  | case1 cs inductionHypothesis =>
    simp only [List.mem_cons] at present ⊢
    tauto
  | case2 d cs notGroup inductionHypothesis =>
    exact (List.mem_cons.mp present).elim (fun same => same ▸ List.mem_cons_self)
      fun later => List.mem_cons_of_mem _ (inductionHypothesis later)
  | case3 => cases present

/-- A text with a line feed in it is written on lines of its own. -/
theorem breakBefore_of_mem
    {cs : List Char}
    (present : '\n' ∈ cs)
    (notLast : cs.getLast? ≠ some '\n') :
    (Shape.of cs).breakBefore = true := by
  have several := Lines.one_lt_length_reading (mem_escape present) (by rwa [getLast?_escape])
  have notSingle : (Shape.of cs).singleLine = false := by
    simp only [Shape.of, decide_eq_false_iff_not]
    omega
  simp [Shape.breakBefore, Shape.multipleLines, notSingle]

/-- A value that is written behind a line break does not open with a blank, unless it is not
steady. -/
theorem opensBlank_iff_of_breakBefore
    {cs : List Char}
    (breaks : (Shape.of cs).breakBefore = true)
    (noLineFeed : '\n' ∉ cs) :
    (Shape.of cs).opensBlank = !isSteady cs := by
  have forced : (Shape.of cs).singleLine = true → (Shape.of cs).forceLeading = false := by
    simp only [Shape.of, decide_eq_true_eq, Bool.and_eq_false_imp]
    omega
  cases single : (Shape.of cs).singleLine with
  | false => simp [isSteady, single, noLineFeed]
  | true =>
    obtain ⟨-, notBlank⟩ :
        (Shape.of cs).multipleLines = true ∧ (Shape.of cs).opensBlank = false := by
      simpa [Shape.breakBefore, single, forced single] using breaks
    simp [isSteady, notBlank]

/-- The lines of a text without carriage returns make it up again. -/
theorem joinLines_source
    {cs : List Char}
    (noReturn : '\r' ∉ cs) :
    joinLines (Lines.source cs) = cs := by
  induction cs with
  | nil => rfl
  | cons c cs inductionHypothesis =>
    obtain ⟨notReturn, noReturn⟩ := List.ne_and_not_mem_of_not_mem_cons noReturn
    obtain ⟨first, rest, split⟩ := Lines.exists_source_eq_cons cs
    have joined := inductionHypothesis noReturn
    by_cases lineFeed : c = '\n'
    · rw [split] at joined
      simp [lineFeed, Lines.source, split, joinLines, joined]
    · rw [Lines.source_cons_of_inLine lineFeed notReturn.symm split]
      rw [split] at joined
      cases rest <;> simpa [joinLines] using joined

theorem contents_append (lines others : List (List Char)) :
    contents (lines ++ others) = contents lines ++ contents others :=
  List.filter_append _ _

theorem drop_indentation (line : List Char) :
    line.drop (indentation line) = line.dropWhile isBlankChar := by
  have split := List.takeWhile_append_dropWhile (p := isBlankChar) (l := line)
  calc
    line.drop (indentation line) =
        (line.takeWhile isBlankChar ++ line.dropWhile isBlankChar).drop (indentation line) := by
      rw [split]
    _ = line.dropWhile isBlankChar := List.drop_left

section Values

variable {cs : List Char} (isValue : IsValue cs)

include isValue

/-- The lines that are read back from a literal. -/
theorem value_framed_eq :
    value (framed cs) =
      joinLines (valueLines
        ((if (Shape.of cs).breakBefore then [[]] else []) ++
          (Lines.source cs ++ if (Shape.of cs).breakAfter then [[]] else []))) := by
  have noReturn : '\r' ∉ cs := isValue.noReturn
  have after : Lines.source (cs ++ if (Shape.of cs).breakAfter then ['\n'] else []) =
      Lines.source cs ++ if (Shape.of cs).breakAfter then [[]] else [] := by
    split
    · exact Lines.source_concat_lineFeed noReturn
    · simp
  rw [value, framed, List.append_assoc, ← after]
  split <;> simp [Lines.source]

/-- A value with line feeds in it is read back as it is. -/
theorem value_framed_of_mem
    (present : '\n' ∈ cs) :
    value (framed cs) = cs := by
  have notEmpty : cs ≠ [] := List.ne_nil_of_mem present
  have dedented := isValue.dedented notEmpty
  have several : 1 < (Lines.source cs).length := by
    by_contra few
    have positive := List.length_pos_iff.mpr (Lines.source_ne_nil cs)
    obtain ⟨line, single⟩ := List.length_eq_one_iff.mp (by omega : (Lines.source cs).length = 1)
    have joined := joinLines_source isValue.noReturn
    rw [single] at joined
    obtain rfl : line = cs := joined
    exact lineFeed_not_mem_source line line (by simp [single]) present
  have blankAfter : ∀ line ∈ (if (Shape.of cs).breakAfter then [[]] else [] : List (List Char)),
      isBlankLine line = true := by
    split <;> simp [isBlankLine]
  have blank : contents (if (Shape.of cs).breakAfter then [[]] else []) = [] := by
    split <;> rfl
  have shared : commonIndentation (Lines.source cs ++
      if (Shape.of cs).breakAfter then [[]] else []) = some 0 := by
    rw [← commonIndentation_contents, contents_append, blank, List.append_nil,
      commonIndentation_contents]
    exact dedented.shared several
  rw [value_framed_eq isValue, if_pos (breakBefore_of_mem present isValue.trimmed.back),
    List.singleton_append, valueLines, unindent, shared]
  have unmoved (lines : List (List Char)) : lines.map (List.drop 0) = lines :=
    List.map_id'' (fun _ => rfl) lines
  dsimp only
  rw [unmoved, ← List.singleton_append,
    dedented.trimBlank_append (Lines.source_ne_nil cs) isBlank_nil blankAfter,
    joinLines_source isValue.noReturn]

/-- A value without line feeds loses the blanks that open it if a line break is put before
it. -/
theorem value_framed_of_not_mem
    (noLineFeed : '\n' ∉ cs)
    (notEmpty : cs ≠ []) :
    value (framed cs) = if (Shape.of cs).breakBefore then cs.dropWhile isBlankChar else cs := by
  have isContent : isBlankLine cs = false := by
    have dedented := isValue.dedented notEmpty
    rw [Lines.source_of_not_mem noLineFeed isValue.noReturn] at dedented
    exact dedented.first cs rfl
  have isContentToo : isBlankLine (cs.drop (indentation cs)) = false :=
    isBlankLine_drop isContent (Nat.le_refl _)
  rw [value_framed_eq isValue, Lines.source_of_not_mem noLineFeed isValue.noReturn]
  generalize blankAfter : (if (Shape.of cs).breakAfter then [[]] else []) = after
  have areBlank : ∀ line ∈ after, isBlankLine line = true := by
    rw [← blankAfter]
    split <;> simp [isBlankLine]
  have unshared : commonIndentation after = none := by
    rw [← blankAfter]
    split <;> rfl
  split
  · have shared : commonIndentation ([cs] ++ after) = some (indentation cs) := by
      simp [commonIndentation, isContent, unshared]
    have areBlankToo : ∀ line ∈ after.map (List.drop (indentation cs)), isBlankLine line = true :=
      List.forall_mem_map.mpr fun line present =>
        isBlankLine_drop_of_isBlankLine (areBlank line present) _
    rw [List.singleton_append, valueLines, unindent, shared, ← drop_indentation]
    dsimp only
    rw [List.map_append, ← List.singleton_append, List.map_singleton,
      (dedented_singleton isContentToo).trimBlank_append (by simp) isBlank_nil areBlankToo]
    rfl
  · rw [List.nil_append, List.singleton_append, valueLines, unindent, unshared]
    dsimp only
    rw [← List.singleton_append, ← List.nil_append ([cs] ++ after),
      (dedented_singleton isContent).trimBlank_append (by simp) (by simp) areBlank]
    rfl

/-- What is read back from the literal of a value. -/
theorem value_framed : value (framed cs) = settle cs := by
  rw [settle]
  by_cases notEmpty : cs = []
  · subst notEmpty
    rfl
  by_cases present : '\n' ∈ cs
  · rw [value_framed_of_mem isValue present, if_pos (isSteady_of_mem present)]
  have unopened (notBlank : (Shape.of cs).opensBlank = false) :
      cs.dropWhile isBlankChar = cs := by
    obtain ⟨c, rest, rfl⟩ := List.exists_cons_of_ne_nil notEmpty
    have other : isBlankChar c = false := by simpa [Shape.of] using notBlank
    exact List.dropWhile_cons_of_neg (by simp [other])
  rw [value_framed_of_not_mem isValue present notEmpty]
  cases breaks : (Shape.of cs).breakBefore with
  | true =>
    have opens := opensBlank_iff_of_breakBefore breaks present
    cases steady : isSteady cs with
    | true =>
      rw [steady] at opens
      simpa using unopened opens
    | false => rfl
  | false =>
    have steady : isSteady cs = true := by
      by_contra unsteady
      obtain ⟨⟨opens, several⟩, -⟩ :
          ((Shape.of cs).opensBlank = true ∧ (Shape.of cs).singleLine = false) ∧ '\n' ∉ cs := by
        simpa [isSteady] using unsteady
      simp [Shape.breakBefore, Shape.multipleLines, several] at breaks
    rw [if_pos steady]
    rfl

end Values

/-! ## Literals behind a margin -/

theorem not_mem_framed
    {c : Char}
    {cs : List Char}
    (absent : c ∉ cs)
    (notLineFeed : c ≠ '\n') :
    c ∉ framed cs := by
  rw [framed]
  split <;> split <;> simp [absent, notLineFeed]

/-- A literal behind a margin is read as what the value settles to, whatever follows. -/
theorem lexeme_indentRest_literal
    (isMargin : IsMargin margin)
    {cs : List Char}
    (isValue : IsValue cs)
    (rest : List Char) :
    Lexer.lexeme (Lines.indentRest margin (literal cs) ++ rest) =
      .ok (.blockString (String.ofList (settle cs)), rest) := by
  have noReturn : '\r' ∉ framed cs := not_mem_framed isValue.noReturn (by decide)
  have noQuote : (Lines.indentRest margin (framed cs)).getLast? ≠ some '"' :=
    fun last => (getLast?_framed cs).1 (Lines.getLast?_indentRest isMargin (by decide) last)
  have noBackslash : (Lines.indentRest margin (framed cs)).getLast? ≠ some '\\' :=
    fun last => (getLast?_framed cs).2 (Lines.getLast?_indentRest isMargin (by decide) last)
  have moved : Lines.indentRest margin (literal cs) ++ rest =
      '"' :: '"' :: '"' :: (escape (Lines.indentRest margin (framed cs)) ++
        '"' :: '"' :: '"' :: rest) := by
    simp [literal_eq, Lines.indentRest, escape_indentRest isMargin]
  rw [moved, Lexer.lexeme, blockBody_escape noQuote noBackslash, Outcome.ok_bind]
  simp only [value_indentRest isMargin noReturn, value_framed isValue]
  rfl

end Block
end Text
end GraphQL
