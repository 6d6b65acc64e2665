import GraphQL.Proofs.Source.Parsing.Value

/-!
# Parsing selections

A selection is read back from its lexemes if every inline fragment in it has selections,
and refused otherwise.  The two go together: a selection set is read item by item as
long as its selections are filled, and the first one that is not ends the reading.
-/

namespace GraphQL
namespace Source
namespace Parser

/-! ## Selections -/

/-- What would carry on a selection. -/
abbrev selectionMarks : List Punctuator :=
  [.colon, .parenL, .atSign, .braceL]

theorem begins_selection (selection : Selection) :
    Begins (.braceR :: selectionMarks) selection.lexemes := by
  cases selection with
  | field alias? name arguments directives selections =>
    cases alias? <;> simp [Begins, Selection.lexemes, Selection.labelLexemes]
  | spread name directives => simp [Begins, Selection.lexemes]
  | inlineFragment condition? directives selections => simp [Begins, Selection.lexemes]

/-- Only an opening brace begins a selection set. -/
theorem avoids_bracedLexemes
    {marks : List Punctuator}
    (notOpening : .braceL ∉ marks)
    (selections : List Selection)
    (rest : List Lexeme) :
    Avoids marks (Selection.bracedLexemes selections ++ rest) := by
  simpa [Selection.bracedLexemes] using notOpening

/-- Selections that do not do are missing or not filled. -/
theorem empty_or_exists_unfilled
    {selections : List Selection}
    (unfilled : ¬(selections ≠ [] ∧ ∀ selection ∈ selections, selection.Filled)) :
    selections = [] ∨ ∃ selection ∈ selections, ¬selection.Filled := by
  by_contra fine
  push Not at fine
  exact unfilled fine

theorem fails_selectionWithin_at_end (depth : Nat) (rest : List Lexeme) :
    Fails (selectionWithin depth) (.punctuator .braceR :: rest) := by
  cases depth with
  | zero => exact (reads_peek _).bind_fails ⟨_, run_unexpected _ _⟩
  | succ depth =>
    refine (reads_optional_of_avoids (by simp)).bind_fails ?_
    rw [if_neg (by simp)]
    exact (fails_name _ _).bind _

section Sets

variable
  {depth : Nat}
  {selections : List Selection}
  (settles : ∀ selection ∈ selections,
    Settles .braceR selectionMarks (selectionWithin depth) Selection.lexemes
      Selection.Filled selection)

include settles

theorem reads_selections
    (nonempty : selections ≠ [])
    (filled : ∀ selection ∈ selections, selection.Filled)
    (rest : List Lexeme) :
    Reads (enclosed .braceL .braceR (selectionWithin depth))
      (Selection.bracedLexemes selections ++ rest) selections rest := by
  rw [Selection.bracedLexemes, List.cons_append, List.append_assoc]
  exact .bind (reads_expect _ _) (reads_someItems (by simp) settles filled nonempty rest)

theorem fails_selections
    (bad : selections = [] ∨ ∃ selection ∈ selections, ¬selection.Filled)
    (rest : List Lexeme) :
    Fails (enclosed .braceL .braceR (selectionWithin depth))
      (Selection.bracedLexemes selections ++ rest) := by
  rw [Selection.bracedLexemes, List.cons_append, List.append_assoc]
  exact (reads_expect _ _).bind_fails
    (fails_someItems (by simp) settles (fails_selectionWithin_at_end depth) bad rest)

theorem reads_inlineFragmentBody
    (condition? : Option String)
    {directives : List Directive}
    (readable : ∀ directive ∈ directives, directive.Readable false)
    (nonempty : selections ≠ [])
    (filled : ∀ selection ∈ selections, selection.Filled)
    (rest : List Lexeme) :
    Reads (inlineFragmentBody depth condition?)
      (directiveLexemes directives ++ (Selection.bracedLexemes selections ++ rest))
      (.inlineFragment condition? directives selections) rest := by
  have readsSet := reads_selections settles nonempty filled rest
  have follows : Avoids [.atSign, .parenL] _ :=
    avoids_bracedLexemes (by simp) selections rest
  exact .bind (reads_directives readable follows) (.bind readsSet (.pure _ _))

theorem fails_inlineFragmentBody
    (condition? : Option String)
    {directives : List Directive}
    (readable : ∀ directive ∈ directives, directive.Readable false)
    (bad : selections = [] ∨ ∃ selection ∈ selections, ¬selection.Filled)
    (rest : List Lexeme) :
    Fails (inlineFragmentBody depth condition?)
      (directiveLexemes directives ++ (Selection.bracedLexemes selections ++ rest)) := by
  have failsSet := fails_selections settles bad rest
  have follows : Avoids [.atSign, .parenL] _ :=
    avoids_bracedLexemes (by simp) selections rest
  exact (reads_directives readable follows).bind_fails (failsSet.bind _)

/-- The selections of a field, which may be left out, are read if they are filled. -/
theorem reads_fieldBody
    (alias? : Option String)
    (name : String)
    {arguments : List Argument}
    {directives : List Directive}
    (readableArguments : ∀ argument ∈ arguments, argument.value.Readable false)
    (readable : ∀ directive ∈ directives, directive.Readable false)
    (filled : ∀ selection ∈ selections, selection.Filled)
    {rest : List Lexeme}
    (follows : Avoids selectionMarks rest) :
    Reads (fieldBody depth alias? name)
      (inParentheses Argument.lexemes arguments ++ (directiveLexemes directives ++
        ((if selections.isEmpty then [] else Selection.bracedLexemes selections) ++ rest)))
      (.field alias? name arguments directives selections) rest := by
  have followsDirectives : Avoids [.atSign, .parenL]
      ((if selections.isEmpty then [] else Selection.bracedLexemes selections) ++ rest) := by
    split
    · exact follows.mono (by simp)
    · exact avoids_bracedLexemes (by simp) selections rest
  refine .bind (reads_arguments readableArguments ?_)
    (.bind (reads_directives readable followsDirectives) ?_)
  · exact avoids_directives (by simp) _ (followsDirectives.mono (by simp))
  · cases selections with
    | nil =>
      refine .bind (reads_isAt_of_avoids (follows.mono (by simp))) ?_
      exact .bind (.pure _ _) (.pure _ _)
    | cons selection selections =>
      refine .bind (reads_isAt _ _) ?_
      exact .bind (reads_selections settles (by simp) filled rest) (.pure _ _)

theorem fails_fieldBody
    (alias? : Option String)
    (name : String)
    {arguments : List Argument}
    {directives : List Directive}
    (readableArguments : ∀ argument ∈ arguments, argument.value.Readable false)
    (readable : ∀ directive ∈ directives, directive.Readable false)
    (bad : ∃ selection ∈ selections, ¬selection.Filled)
    (rest : List Lexeme) :
    Fails (fieldBody depth alias? name)
      (inParentheses Argument.lexemes arguments ++ (directiveLexemes directives ++
        ((if selections.isEmpty then [] else Selection.bracedLexemes selections) ++ rest))) := by
  cases selections with
  | nil => simp at bad
  | cons selection selections =>
    have follows : Avoids [.atSign, .parenL] _ :=
      avoids_bracedLexemes (by simp) (selection :: selections) rest
    refine (reads_arguments readableArguments ?_).bind_fails
      ((reads_directives readable follows).bind_fails ?_)
    · exact avoids_directives (by simp) _ (follows.mono (by simp))
    · exact (reads_isAt _ _).bind_fails ((fails_selections settles (.inr bad) rest).bind _)

end Sets

theorem reads_labelled
    {depth : Nat}
    {alias? : Option String}
    {name : String}
    {body rest : List Lexeme}
    {selection : Selection}
    (follows : Avoids [.colon] body)
    (reads : Reads (fieldBody depth alias? name) body selection rest) :
    Reads (selectionWithin (depth + 1)) (Selection.labelLexemes alias? name ++ body)
      selection rest := by
  rw [selectionWithin_succ]
  cases alias? with
  | none =>
    refine .bind (reads_optional_of_avoids (by simp [Selection.labelLexemes])) ?_
    refine .ite_false (by simp) (.bind (reads_name _ _) ?_)
    exact .bind (reads_optional_of_avoids follows) (.ite_false (by simp) reads)
  | some label =>
    refine .bind (reads_optional_of_avoids (by simp [Selection.labelLexemes])) ?_
    refine .ite_false (by simp) (.bind (reads_name _ _) ?_)
    exact .bind (reads_optional _ _) (.ite_true rfl (.bind (reads_name _ _) reads))

theorem fails_labelled
    {depth : Nat}
    {alias? : Option String}
    {name : String}
    {body : List Lexeme}
    (follows : Avoids [.colon] body)
    (fails : Fails (fieldBody depth alias? name) body) :
    Fails (selectionWithin (depth + 1)) (Selection.labelLexemes alias? name ++ body) := by
  rw [selectionWithin_succ]
  cases alias? with
  | none =>
    refine (reads_optional_of_avoids (by simp [Selection.labelLexemes])).bind_fails ?_
    rw [if_neg (by simp)]
    refine (reads_name _ _).bind_fails ((reads_optional_of_avoids follows).bind_fails ?_)
    rwa [if_neg (by simp)]
  | some label =>
    refine (reads_optional_of_avoids (by simp [Selection.labelLexemes])).bind_fails ?_
    rw [if_neg (by simp)]
    refine (reads_name _ _).bind_fails ((reads_optional _ _).bind_fails ?_)
    rw [if_pos rfl]
    exact (reads_name _ _).bind_fails fails

theorem reads_conditioned
    {depth : Nat}
    {condition? : Option String}
    {mark : Punctuator}
    {body rest : List Lexeme}
    {selection : Selection}
    (reads : Reads (inlineFragmentBody depth condition?) (.punctuator mark :: body)
      selection rest) :
    Reads (selectionWithin (depth + 1))
      (.punctuator .spread :: (Selection.conditionLexemes condition? ++
        .punctuator mark :: body))
      selection rest := by
  rw [selectionWithin_succ]
  refine .bind (reads_optional _ _) (.ite_true rfl ?_)
  cases condition? with
  | none =>
    refine .bind (reads_optionalKeyword_of_ne (by simp [Selection.conditionLexemes])) ?_
    exact .ite_false (by simp) (.bind (reads_peek _) reads)
  | some condition =>
    refine .bind (reads_optionalKeyword _ _) (.ite_true rfl ?_)
    exact .bind (reads_name _ _) reads

theorem fails_conditioned
    {depth : Nat}
    {condition? : Option String}
    {mark : Punctuator}
    {body : List Lexeme}
    (fails : Fails (inlineFragmentBody depth condition?) (.punctuator mark :: body)) :
    Fails (selectionWithin (depth + 1))
      (.punctuator .spread :: (Selection.conditionLexemes condition? ++
        .punctuator mark :: body)) := by
  rw [selectionWithin_succ]
  refine (reads_optional _ _).bind_fails ?_
  rw [if_pos rfl]
  cases condition? with
  | none =>
    refine (reads_optionalKeyword_of_ne (by simp [Selection.conditionLexemes])).bind_fails ?_
    rw [if_neg (by simp)]
    exact (reads_peek _).bind_fails fails
  | some condition =>
    refine (reads_optionalKeyword _ _).bind_fails ?_
    rw [if_pos rfl]
    exact (reads_name _ _).bind_fails fails

theorem reads_fragmentName
    {name : String}
    (notOn : name ≠ "on")
    (rest : List Lexeme) :
    Reads fragmentName (.name name :: rest) name rest := by
  refine .bind (reads_peek _) (.ite_false ?_ (reads_name _ _))
  simpa [firstToken, Lexeme.value?] using notOn

theorem reads_spread
    (depth : Nat)
    {name : String}
    (notOn : name ≠ "on")
    {directives : List Directive}
    (readable : ∀ directive ∈ directives, directive.Readable false)
    {rest : List Lexeme}
    (follows : Avoids [.atSign, .parenL] rest) :
    Reads (selectionWithin (depth + 1))
      (.punctuator .spread :: .name name :: (directiveLexemes directives ++ rest))
      (.spread name directives) rest := by
  rw [selectionWithin_succ]
  refine .bind (reads_optional _ _) (.ite_true rfl ?_)
  refine .bind (reads_optionalKeyword_of_ne (by simpa using notOn)) (.ite_false (by simp) ?_)
  refine .bind (reads_peek _) (.bind (reads_fragmentName notOn _) ?_)
  exact .bind (reads_directives readable follows) (.pure _ _)

/-- What follows the condition of an inline fragment begins with a punctuator. -/
theorem exists_punctuator_cons
    (directives : List Directive)
    (selections : List Selection)
    (rest : List Lexeme) :
    ∃ mark body, directiveLexemes directives ++ (Selection.bracedLexemes selections ++ rest) =
      .punctuator mark :: body := by
  cases directives with
  | nil => exact ⟨_, _, rfl⟩
  | cons directive directives => exact ⟨_, _, rfl⟩

section Steps

variable
  {depth : Nat}
  {selections : List Selection}
  (settles : ∀ selection ∈ selections,
    Settles .braceR selectionMarks (selectionWithin depth) Selection.lexemes
      Selection.Filled selection)

include settles

/-- A field is read or refused one level above its selections. -/
theorem settles_field
    (alias? : Option String)
    (name : String)
    {arguments : List Argument}
    {directives : List Directive}
    (readableArguments : ∀ argument ∈ arguments, argument.value.Readable false)
    (readable : ∀ directive ∈ directives, directive.Readable false) :
    Settles .braceR selectionMarks (selectionWithin (depth + 1)) Selection.lexemes
      Selection.Filled (.field alias? name arguments directives selections) := by
  have followsLabel : ∀ rest, (selections = [] → Avoids [.colon] rest) →
      Avoids [.colon] (inParentheses Argument.lexemes arguments ++ (directiveLexemes directives ++
        ((if selections.isEmpty then [] else Selection.bracedLexemes selections) ++ rest))) := by
    intro rest follows
    apply avoids_inParentheses (by simp)
    apply avoids_directives (by simp)
    cases selections with
    | nil => exact follows rfl
    | cons selection selections => exact avoids_bracedLexemes (by simp) _ rest
  refine ⟨begins_selection _, ?reads, ?fails⟩
  case reads =>
    intro filled rest follows
    rw [Selection.Filled, Selection.allFilled_iff] at filled
    rw [Selection.lexemes_field]
    simp only [List.append_assoc]
    apply reads_labelled
    · exact followsLabel rest fun _ => follows.mono (by simp)
    · exact reads_fieldBody settles alias? name readableArguments readable filled follows
  case fails =>
    intro unfilled rest
    left
    have bad : ∃ selection ∈ selections, ¬selection.Filled := by
      simpa [Selection.Filled] using unfilled
    rw [Selection.lexemes_field]
    simp only [List.append_assoc]
    apply fails_labelled
    · apply followsLabel
      rintro rfl
      simp at bad
    · exact fails_fieldBody settles alias? name readableArguments readable bad rest

/-- An inline fragment is read or refused one level above its selections. -/
theorem settles_inlineFragment
    (condition? : Option String)
    {directives : List Directive}
    (readable : ∀ directive ∈ directives, directive.Readable false) :
    Settles .braceR selectionMarks (selectionWithin (depth + 1)) Selection.lexemes
      Selection.Filled (.inlineFragment condition? directives selections) := by
  refine ⟨begins_selection _, ?reads, ?fails⟩
  case reads =>
    intro filled rest _
    rw [Selection.Filled, Selection.allFilled_iff] at filled
    obtain ⟨nonempty, filled⟩ := filled
    have reads := reads_inlineFragmentBody settles condition? readable nonempty filled rest
    obtain ⟨mark, body, split⟩ := exists_punctuator_cons directives selections rest
    rw [Selection.lexemes_inlineFragment]
    simp only [List.cons_append, List.append_assoc]
    rw [split] at reads ⊢
    exact reads_conditioned reads
  case fails =>
    intro unfilled rest
    left
    rw [Selection.Filled, Selection.allFilled_iff] at unfilled
    have fails := fails_inlineFragmentBody settles condition? readable
      (empty_or_exists_unfilled unfilled) rest
    obtain ⟨mark, body, split⟩ := exists_punctuator_cons directives selections rest
    rw [Selection.lexemes_inlineFragment]
    simp only [List.cons_append, List.append_assoc]
    rw [split] at fails ⊢
    exact fails_conditioned fails

end Steps

/-- With more depth than it has lexemes, a filled selection is read, and any other is
refused. -/
theorem settles_selectionWithin
    {selection : Selection}
    (readable : selection.Readable)
    {depth : Nat}
    (enough : selection.lexemes.length ≤ depth) :
    Settles .braceR selectionMarks (selectionWithin depth) Selection.lexemes
      Selection.Filled selection := by
  induction readable generalizing depth with
  | field alias? name arguments directives selections readableArguments readableDirectives
      readable inductionHypothesis =>
    obtain ⟨depth, rfl⟩ := (begins_selection _).exists_succ enough
    apply settles_field _ alias? name readableArguments readableDirectives
    intro selection present
    have shorter := Selection.length_lexemes_lt_of_mem present
    rw [Selection.lexemes_field, if_neg (by simp [List.ne_nil_of_mem present])] at enough
    simp only [List.length_append] at enough
    exact inductionHypothesis selection present (by omega)
  | spread name directives notOn readable =>
    obtain ⟨depth, rfl⟩ := (begins_selection _).exists_succ enough
    refine ⟨begins_selection _, ?reads, ?fails⟩
    case reads =>
      intro _ rest follows
      exact reads_spread depth notOn readable (follows.mono (by simp))
    case fails =>
      intro unfilled
      exact absurd trivial unfilled
  | inlineFragment condition? directives selections readableDirectives readable
      inductionHypothesis =>
    obtain ⟨depth, rfl⟩ := (begins_selection _).exists_succ enough
    apply settles_inlineFragment _ condition? readableDirectives
    intro selection present
    have shorter := Selection.length_lexemes_lt_of_mem present
    rw [Selection.lexemes_inlineFragment] at enough
    simp only [List.length_cons, List.length_append] at enough
    exact inductionHypothesis selection present (by omega)

theorem settles_selections
    {selections : List Selection}
    (readable : ∀ selection ∈ selections, selection.Readable)
    {depth : Nat}
    (enough : (Selection.bracedLexemes selections).length ≤ depth) :
    ∀ selection ∈ selections,
      Settles .braceR selectionMarks (selectionWithin depth) Selection.lexemes
        Selection.Filled selection := by
  intro selection present
  have shorter := Selection.length_lexemes_lt_of_mem present
  exact settles_selectionWithin (readable selection present) (by omega)

theorem reads_selectionSet
    {selections : List Selection}
    (readable : ∀ selection ∈ selections, selection.Readable)
    (nonempty : selections ≠ [])
    (filled : ∀ selection ∈ selections, selection.Filled)
    (rest : List Lexeme) :
    Reads selectionSet (Selection.bracedLexemes selections ++ rest) selections rest := by
  refine .bind (reads_bound _) (reads_selections (settles_selections readable ?_) nonempty filled _)
  simp only [List.length_append]
  omega

theorem fails_selectionSet
    {selections : List Selection}
    (readable : ∀ selection ∈ selections, selection.Readable)
    (bad : selections = [] ∨ ∃ selection ∈ selections, ¬selection.Filled)
    (rest : List Lexeme) :
    Fails selectionSet (Selection.bracedLexemes selections ++ rest) := by
  refine (reads_bound _).bind_fails (fails_selections (settles_selections readable ?_) bad _)
  simp only [List.length_append]
  omega

end Parser
end Source
end GraphQL
