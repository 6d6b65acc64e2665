import GraphQL.Proofs.Source.Readable
import GraphQL.Proofs.Source.Reading

/-!
# Parsing values and types

Values, types, arguments and directives are read back from their lexemes, with any
lexemes behind them that do not carry them on.  A type with a doubled mark is not: it is
refused, or the second mark is left.
-/

namespace GraphQL
namespace Source

namespace Parser

/-! ## Values -/

theorem begins_value (value : Value) : Begins [.bracketR] value.lexemes := by
  cases value with
  | string text block => cases block <;> simp [Begins, Avoids, Value.lexemes]
  | _ => simp [Begins, Avoids, Value.lexemes]

theorem length_le_length_flatMap_of_mem
    {α : Type}
    (written : α → List Lexeme)
    {values : List α}
    {value : α}
    (present : value ∈ values) :
    (written value).length ≤ (values.flatMap written).length := by
  obtain ⟨before, after, rfl⟩ := List.append_of_mem present
  simp only [List.flatMap_append, List.flatMap_cons, List.length_append]
  omega

section Steps

variable
  {constant : Bool}
  {depth : Nat}

theorem reads_enum
    {symbol : String}
    (notReserved : Text.Name.isReserved symbol = false)
    (rest : List Lexeme) :
    Reads (valueWithin constant (depth + 1)) (.name symbol :: rest) (.enum symbol) rest := by
  simp only [Text.Name.isReserved, Bool.or_eq_false_iff, decide_eq_false_iff_not] at notReserved
  obtain ⟨⟨notTrue, notFalse⟩, notNull⟩ := notReserved
  have reads : Reads (pure (if symbol = "true" then Value.boolean true
      else if symbol = "false" then .boolean false
      else if symbol = "null" then .null else .enum symbol)) rest (.enum symbol) rest := by
    rw [if_neg notTrue, if_neg notFalse, if_neg notNull]
    exact .pure _ _
  exact .bind (reads_peek _) (.bind (reads_next _ _) reads)

/-- A list is read one level above its items. -/
theorem reads_list
    {items : List Value}
    (reads : ∀ item ∈ items, ∀ more,
      Reads (valueWithin constant depth) (item.lexemes ++ more) item more)
    (rest : List Lexeme) :
    Reads (valueWithin constant (depth + 1)) ((Value.list items).lexemes ++ rest)
      (.list items) rest := by
  have settles : ∀ item ∈ items, Settles .bracketR [] (valueWithin constant depth)
      Value.lexemes (fun _ => True) item := by
    intro item present
    apply Settles.of_reads (begins_value item)
    intro more _
    exact reads item present more
  simp only [Value.lexemes, Value.itemLexemes_eq, List.cons_append, List.append_assoc]
  exact .bind (reads_peek _) (.bind (reads_next _ _)
    (.bind (reads_items (by simp) settles (by simp) rest) (.pure _ _)))

/-- An object is read one level above the values of its fields. -/
theorem reads_object
    {fields : List (String × Value)}
    (reads : ∀ field ∈ fields, ∀ more,
      Reads (valueWithin constant depth) (field.2.lexemes ++ more) field.2 more)
    (rest : List Lexeme) :
    Reads (valueWithin constant (depth + 1)) ((Value.object fields).lexemes ++ rest)
      (.object fields) rest := by
  have settles : ∀ field ∈ fields, Settles .braceR []
      (do
        let field ← name
        expect .colon
        return (field, ← valueWithin constant depth))
      (fun field => .name field.1 :: .punctuator .colon :: field.2.lexemes)
      (fun _ => True) field := by
    intro field present
    apply Settles.of_reads (by simp [Begins])
    intro more _
    have readsValue := reads field present more
    exact .bind (reads_name _ _) (.bind (reads_expect _ _) (.bind readsValue (.pure _ _)))
  simp only [Value.lexemes, Value.fieldLexemes_eq, List.cons_append, List.append_assoc]
  exact .bind (reads_peek _) (.bind (reads_next _ _)
    (.bind (reads_items (by simp) settles (by simp) rest) (.pure _ _)))

end Steps

/-- Every value can be read with more depth than it has lexemes. -/
theorem reads_valueWithin
    {constant : Bool}
    {value : Value}
    (readable : value.Readable constant)
    {depth : Nat}
    (enough : value.lexemes.length ≤ depth)
    (rest : List Lexeme) :
    Reads (valueWithin constant depth) (value.lexemes ++ rest) value rest := by
  obtain ⟨depth, rfl⟩ := (begins_value value).exists_succ enough
  induction readable generalizing depth rest with
  | reference name free =>
    subst free
    exact .bind (reads_peek _) (.bind (reads_next _ _) (.bind (reads_name _ _) (.pure _ _)))
  | int text => exact .bind (reads_peek _) (.bind (reads_next _ _) (.pure _ _))
  | float text => exact .bind (reads_peek _) (.bind (reads_next _ _) (.pure _ _))
  | string text block =>
    cases block <;> exact .bind (reads_peek _) (.bind (reads_next _ _) (.pure _ _))
  | boolean value =>
    cases value <;> exact .bind (reads_peek _) (.bind (reads_next _ _) (.pure _ _))
  | null => exact .bind (reads_peek _) (.bind (reads_next _ _) (.pure _ _))
  | enum symbol notReserved => exact reads_enum notReserved rest
  | list items readable inductionHypothesis =>
    apply reads_list
    intro item present more
    have shorter := length_le_length_flatMap_of_mem Value.lexemes present
    simp only [Value.lexemes, Value.itemLexemes_eq, List.length_cons, List.length_append]
      at enough
    have enoughForItem : item.lexemes.length ≤ depth := by omega
    obtain ⟨less, rfl⟩ := (begins_value item).exists_succ enoughForItem
    exact inductionHypothesis item present more less enoughForItem
  | object fields readable inductionHypothesis =>
    apply reads_object
    intro field present more
    have shorter := length_le_length_flatMap_of_mem
      (fun field => .name field.1 :: .punctuator .colon :: field.2.lexemes) present
    simp only [Value.lexemes, Value.fieldLexemes_eq, List.length_cons, List.length_append]
      at enough shorter
    have enoughForField : field.2.lexemes.length ≤ depth := by omega
    obtain ⟨less, rfl⟩ := (begins_value field.2).exists_succ enoughForField
    exact inductionHypothesis field present more less enoughForField

theorem reads_value
    {constant : Bool}
    {value : Value}
    (readable : value.Readable constant)
    (rest : List Lexeme) :
    Reads (Parser.value constant) (value.lexemes ++ rest) value rest := by
  refine .bind (reads_bound _) (reads_valueWithin readable ?_ rest)
  simp only [List.length_append]
  omega

/-! ## Types -/

theorem length_lexemes_pos (type : TypeRef) : 0 < type.lexemes.length := by
  cases type <;> simp [TypeRef.lexemes]

theorem reads_marked
    (type : TypeRef)
    {rest : List Lexeme}
    (follows : Avoids [.bang] rest) :
    Reads (marked type) rest type rest :=
  .bind (reads_optional_of_avoids follows) (.pure _ _)

/-- A type with no doubled mark is read without its own mark, if it has none, and with
it, unless a mark follows that could be its own. -/
theorem reads_unmarkedWithin_and_typeRefWithin
    {type : TypeRef}
    (undoubled : type.Undoubled)
    {depth : Nat}
    (enough : type.lexemes.length ≤ depth + 1)
    (rest : List Lexeme) :
    (type.isNonNull = false →
        Reads (unmarkedWithin depth) (type.lexemes ++ rest) type rest) ∧
      ((type.isNonNull = false → Avoids [.bang] rest) →
        Reads (typeRefWithin (depth + 1)) (type.lexemes ++ rest) type rest) := by
  rw [typeRefWithin_succ]
  induction type generalizing depth rest with
  | named name =>
    have reads : Reads (unmarkedWithin depth) (.name name :: rest) (.named name) rest :=
      .bind (reads_optional_of_avoids (by simp)) (.bind (reads_name _ _) (.pure _ _))
    exact ⟨fun _ => reads, fun follows => reads.bind (reads_marked _ (follows rfl))⟩
  | list of inductionHypothesis =>
    simp only [TypeRef.lexemes, List.length_cons, List.length_append, List.cons_append,
      List.append_assoc] at enough ⊢
    have positive := length_lexemes_pos of
    obtain ⟨depth, rfl⟩ : ∃ less, depth = less + 1 := ⟨depth - 1, by omega⟩
    have readsItem : Reads (typeRefWithin (depth + 1))
        (of.lexemes ++ .punctuator .bracketR :: rest) of (.punctuator .bracketR :: rest) := by
      rw [typeRefWithin_succ]
      exact (@inductionHypothesis undoubled depth (by omega) _).2 (by simp)
    have reads : Reads (unmarkedWithin (depth + 1))
        (.punctuator .bracketL :: (of.lexemes ++ .punctuator .bracketR :: rest))
        (.list of) rest :=
      .bind (reads_optional _ _) (.bind readsItem (.bind (reads_expect _ _) (.pure _ _)))
    exact ⟨fun _ => reads, fun follows => reads.bind (reads_marked _ (follows rfl))⟩
  | nonNull of inductionHypothesis =>
    obtain ⟨unmarked, undoubled⟩ := undoubled
    simp only [TypeRef.lexemes, List.length_append, List.length_singleton,
      List.append_assoc] at enough ⊢
    have readsOf := (@inductionHypothesis undoubled depth (by omega)
      ([.punctuator .bang] ++ rest)).1
      unmarked
    refine ⟨nofun, fun _ => ?_⟩
    exact readsOf.bind (.bind (reads_optional _ _) (.pure _ _))

theorem reads_typeRefWithin
    {type : TypeRef}
    (undoubled : type.Undoubled)
    {depth : Nat}
    (enough : type.lexemes.length ≤ depth)
    {rest : List Lexeme}
    (follows : type.isNonNull = false → Avoids [.bang] rest) :
    Reads (typeRefWithin depth) (type.lexemes ++ rest) type rest := by
  have positive := length_lexemes_pos type
  obtain ⟨depth, rfl⟩ : ∃ less, depth = less + 1 := ⟨depth - 1, by omega⟩
  exact (reads_unmarkedWithin_and_typeRefWithin undoubled (by omega) rest).2 follows

/-- A type with a doubled mark is refused, or its reading stops in front of a mark. -/
theorem breaks_typeRefWithin
    {type : TypeRef}
    (doubled : ¬type.Undoubled)
    {depth : Nat}
    (enough : type.lexemes.length ≤ depth)
    (rest : List Lexeme) :
    Fails (typeRefWithin depth) (type.lexemes ++ rest) ∨
      ∃ found left, Reads (typeRefWithin depth) (type.lexemes ++ rest) found
        (.punctuator .bang :: left) := by
  induction type generalizing depth rest with
  | named name => exact absurd trivial doubled
  | list of inductionHypothesis =>
    simp only [TypeRef.lexemes, List.length_cons, List.length_append, List.cons_append,
      List.append_assoc] at enough ⊢
    obtain ⟨depth, rfl⟩ : ∃ less, depth = less + 1 := ⟨depth - 1, by omega⟩
    left
    rw [typeRefWithin_succ]
    refine (Reads.bind_fails (reads_optional _ _) ?_).bind _
    rcases @inductionHypothesis doubled depth (by omega)
        ([.punctuator .bracketR] ++ rest) with fails | ⟨found, left, reads⟩
    · exact fails.bind _
    · exact reads.bind_fails ((fails_expect (by simp)).bind _)
  | nonNull of inductionHypothesis =>
    simp only [TypeRef.lexemes, List.length_append, List.length_singleton,
      List.append_assoc] at enough ⊢
    by_cases undoubled : of.Undoubled
    · have isNonNull : of.isNonNull = true := by
        by_contra unmarked
        exact doubled ⟨by simpa using unmarked, undoubled⟩
      right
      refine ⟨of, rest, reads_typeRefWithin undoubled (by omega) ?_⟩
      simp [isNonNull]
    · exact inductionHypothesis undoubled (by omega) _

theorem reads_typeRef
    {type : TypeRef}
    (undoubled : type.Undoubled)
    {rest : List Lexeme}
    (follows : Avoids [.bang] rest) :
    Reads typeRef (type.lexemes ++ rest) type rest := by
  refine .bind (reads_bound _) (reads_typeRefWithin undoubled ?_ fun _ => follows)
  simp only [List.length_append]
  omega

theorem breaks_typeRef
    {type : TypeRef}
    (doubled : ¬type.Undoubled)
    (rest : List Lexeme) :
    Fails typeRef (type.lexemes ++ rest) ∨
      ∃ found left, Reads typeRef (type.lexemes ++ rest) found (.punctuator .bang :: left) := by
  have enough : type.lexemes.length ≤ (type.lexemes ++ rest).length - 1 + 2 := by
    simp only [List.length_append]
    omega
  rcases breaks_typeRefWithin doubled enough rest with fails | ⟨found, left, reads⟩
  · exact .inl ((reads_bound _).bind_fails fails)
  · exact .inr ⟨found, left, (reads_bound _).bind reads⟩

/-- A default value is read if there is one. -/
theorem reads_defaultValue
    {default? : Option Value}
    (readable : ∀ default ∈ default?, default.Readable true)
    {rest : List Lexeme}
    (follows : Avoids [.equals] rest) :
    Reads defaultValue (defaultLexemes default? ++ rest) default? rest := by
  cases default? with
  | none => exact .bind (reads_optional_of_avoids follows) (.pure _ _)
  | some default =>
    have readsDefault := reads_value (readable default rfl) rest
    exact .bind (reads_optional _ _) (.bind readsDefault (.pure _ _))

/-! ## Arguments and directives -/

theorem settles_argument
    {constant : Bool}
    {argument : Argument}
    (readable : argument.value.Readable constant) :
    Settles .parenR [] (Parser.argument constant) Argument.lexemes (fun _ => True)
      argument := by
  refine .of_reads (by simp [Begins, Argument.lexemes]) fun rest _ => ?_
  have readsValue := reads_value readable rest
  exact .bind (reads_name _ _) (.bind (reads_expect _ _) (.bind readsValue (.pure _ _)))

theorem reads_arguments
    {constant : Bool}
    {arguments : List Argument}
    (readable : ∀ argument ∈ arguments, argument.value.Readable constant)
    {rest : List Lexeme}
    (follows : Avoids [.parenL] rest) :
    Reads (Parser.arguments constant) (inParentheses Argument.lexemes arguments ++ rest)
      arguments rest := by
  have settles : ∀ argument ∈ arguments, Settles .parenR [] (Parser.argument constant)
      Argument.lexemes (fun _ => True) argument :=
    fun argument present => settles_argument (readable argument present)
  exact reads_inParentheses (by simp) settles (by simp) follows

/-- Directives are read up to what is neither another directive nor carries on the last
one. -/
theorem reads_directives
    {constant : Bool}
    {directives : List Directive}
    (readable : ∀ directive ∈ directives, directive.Readable constant)
    {rest : List Lexeme}
    (follows : Avoids [.atSign, .parenL] rest) :
    Reads (Parser.directives constant) (directiveLexemes directives ++ rest)
      directives rest := by
  have readsBody : ∀ directive ∈ directives, ∀ rest, Avoids [.parenL] rest →
      Reads (directiveBody constant)
        (.name directive.name :: inParentheses Argument.lexemes directive.arguments ++ rest)
        directive rest := by
    intro directive present rest follows
    have readsArguments := reads_arguments (readable directive present) follows
    exact .bind (reads_name _ _) (.bind readsArguments (.pure _ _))
  refine .bind (reads_bound _) (reads_itemsAfter (by simp) readsBody follows ?_)
  have fewer : directives.length ≤ (directiveLexemes directives).length := by
    unfold directiveLexemes
    induction directives with
    | nil => simp
    | cons directive directives inductionHypothesis =>
      have others := inductionHypothesis
        (fun other present => readable other (by simp [present]))
        (fun other present => readsBody other (by simp [present]))
      simp only [List.flatMap_cons, List.length_append, List.length_cons, Directive.lexemes]
      omega
  simp only [List.length_append]
  omega

/-- Directives begin with their sign. -/
theorem avoids_directives
    {marks : List Punctuator}
    (apart : .atSign ∉ marks)
    (directives : List Directive)
    {rest : List Lexeme}
    (follows : Avoids marks rest) :
    Avoids marks (directiveLexemes directives ++ rest) := by
  cases directives with
  | nil => exact follows
  | cons directive directives => exact (Avoids.punctuator_cons_iff _ _ _).mpr apart

/-- Items in parentheses begin with the parenthesis. -/
theorem avoids_inParentheses
    {α : Type}
    {marks : List Punctuator}
    (apart : .parenL ∉ marks)
    (written : α → List Lexeme)
    (values : List α)
    {rest : List Lexeme}
    (follows : Avoids marks rest) :
    Avoids marks (inParentheses written values ++ rest) := by
  cases values with
  | nil => exact follows
  | cons value values => exact (Avoids.punctuator_cons_iff _ _ _).mpr apart

/-! ## Declarations -/

/-- What would carry on the declaration of a variable or of a parameter. -/
abbrev declarationMarks : List Punctuator :=
  [.bang, .equals, .atSign, .parenL]

/-- What is declared with a type is read with its default value and its directives. -/
theorem reads_typed
    {α : Type}
    {type : TypeRef}
    (undoubled : type.Undoubled)
    {default? : Option Value}
    (readableDefault : ∀ default ∈ default?, default.Readable true)
    {directives : List Directive}
    (readableDirectives : ∀ directive ∈ directives, directive.Readable true)
    {rest : List Lexeme}
    (follows : Avoids declarationMarks rest)
    (finish : TypeRef → Option Value → List Directive → α) :
    Reads
      (do
        let type ← typeRef
        let default? ← defaultValue
        return finish type default? (← Parser.directives true))
      (type.lexemes ++ (defaultLexemes default? ++ (directiveLexemes directives ++ rest)))
      (finish type default? directives) rest := by
  have followsDefault : Avoids [.equals, .bang] (directiveLexemes directives ++ rest) :=
    avoids_directives (by simp) _ (follows.mono (by simp))
  have followsType : Avoids [.bang]
      (defaultLexemes default? ++ (directiveLexemes directives ++ rest)) := by
    cases default? with
    | none => exact followsDefault.mono (by simp)
    | some default => simp [defaultLexemes]
  have readsType := reads_typeRef undoubled followsType
  have readsDefault := reads_defaultValue readableDefault (followsDefault.mono (by simp))
  have readsDirectives := reads_directives readableDirectives (follows.mono (by simp))
  exact .bind readsType (.bind readsDefault (.bind readsDirectives (.pure _ _)))

end Parser
end Source
end GraphQL
