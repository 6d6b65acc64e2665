import GraphQL.Proofs.Source.Parsing.Selection

/-!
# Parsing documents

The lexemes of a readable document are accepted exactly if the document is complete, and
what is read from them then is the document itself.  Since positions do not matter, this
holds of every text with these lexemes.
-/

namespace GraphQL
namespace Source
namespace Parser

/-! ## Definitions -/

theorem reads_variableDefinition
    {declared : VariableDefinition}
    (readable : declared.Readable)
    (undoubled : declared.type.Undoubled)
    {rest : List Lexeme}
    (follows : Avoids declarationMarks rest) :
    Reads variableDefinition (declared.lexemes ++ rest) declared rest := by
  obtain ⟨name, type, default?, directives⟩ := declared
  obtain ⟨readableDefault, readableDirectives⟩ := readable
  have readsTyped := reads_typed undoubled readableDefault readableDirectives follows
    (VariableDefinition.mk name)
  simp only [VariableDefinition.lexemes, List.cons_append, List.append_assoc]
  exact .bind (reads_expect _ _) (.bind (reads_name _ _) (.bind (reads_expect _ _) readsTyped))

/-- After a doubly marked type, a mark is left that ends nothing and begins nothing. -/
theorem breaks_variableDefinition
    {declared : VariableDefinition}
    (doubled : ¬declared.type.Undoubled)
    (rest : List Lexeme) :
    Breaks .parenR variableDefinition (declared.lexemes ++ rest) := by
  obtain ⟨name, type, default?, directives⟩ := declared
  simp only [VariableDefinition.lexemes, List.cons_append, List.append_assoc]
  rcases breaks_typeRef doubled (defaultLexemes default? ++ (directiveLexemes directives ++ rest))
    with fails | ⟨found, left, reads⟩
  · exact .inl ((reads_expect _ _).bind_fails ((reads_name _ _).bind_fails
      ((reads_expect _ _).bind_fails (fails.bind _))))
  · have readsDefault : Reads defaultValue (.punctuator .bang :: left) none
        (.punctuator .bang :: left) :=
      @reads_defaultValue none nofun _ (by simp)
    have readsDirectives : Reads (Parser.directives true) (.punctuator .bang :: left) []
        (.punctuator .bang :: left) :=
      @reads_directives _ [] (by simp) _ (by simp)
    refine .inr ⟨⟨name, found, none, []⟩, .punctuator .bang :: left, ?_, by simp,
      (fails_expect (by simp)).bind _⟩
    exact .bind (reads_expect _ _) (.bind (reads_name _ _) (.bind (reads_expect _ _)
      (.bind reads (.bind readsDefault (.bind readsDirectives (.pure _ _))))))

theorem settles_variableDefinition
    {declared : VariableDefinition}
    (readable : declared.Readable) :
    Settles .parenR declarationMarks variableDefinition VariableDefinition.lexemes
      (fun declared => declared.type.Undoubled) declared where
  begins := by simp [Begins, VariableDefinition.lexemes]
  reads undoubled _ follows := reads_variableDefinition readable undoubled follows
  breaks := breaks_variableDefinition

theorem reads_operationKind (kind : OperationKind) (rest : List Lexeme) :
    Reads operationKind (.name kind.text :: rest) kind rest := by
  cases kind <;> exact .bind (reads_peek _) (.bind (reads_next _ _) (.pure _ _))

/-- What follows the name of an operation begins with a punctuator. -/
theorem exists_punctuator_cons_of_operation
    (declarations : List VariableDefinition)
    (directives : List Directive)
    (selections : List Selection)
    (rest : List Lexeme) :
    ∃ mark body,
      inParentheses VariableDefinition.lexemes declarations ++ (directiveLexemes directives ++
        (Selection.bracedLexemes selections ++ rest)) = .punctuator mark :: body := by
  cases declarations with
  | nil => exact exists_punctuator_cons directives selections rest
  | cons declared declarations => exact ⟨_, _, rfl⟩

theorem reads_named
    (kind : OperationKind)
    (name? : Option String)
    {mark : Punctuator}
    {body rest : List Lexeme}
    {definition : Definition}
    (reads : Reads (operationBody kind name?) (.punctuator mark :: body) definition rest) :
    Reads operation (.name kind.text :: ((name?.map .name).toList ++ .punctuator mark :: body))
      definition rest := by
  rw [operation_eq]
  refine .bind (reads_operationKind _ _) ?_
  cases name? with
  | none => exact .bind (reads_peek _) reads
  | some name => exact .bind (reads_peek _) (.bind (reads_name _ _) reads)

theorem fails_named
    (kind : OperationKind)
    (name? : Option String)
    {mark : Punctuator}
    {body : List Lexeme}
    (fails : Fails (operationBody kind name?) (.punctuator mark :: body)) :
    Fails operation
      (.name kind.text :: ((name?.map .name).toList ++ .punctuator mark :: body)) := by
  rw [operation_eq]
  refine (reads_operationKind _ _).bind_fails ?_
  cases name? with
  | none => exact (reads_peek _).bind_fails fails
  | some name => exact (reads_peek _).bind_fails ((reads_name _ _).bind_fails fails)

/-- The keyword of an operation introduces an operation. -/
theorem run_definition_of_operation (kind : OperationKind) (rest : List Lexeme) :
    StateT.run definition (.of (.name kind.text :: rest)) =
      StateT.run operation (.of (.name kind.text :: rest)) := by
  have notKeyword : isTypeSystemKeyword kind.text = false := by cases kind <;> rfl
  have isOperation : (OperationKind.ofText? kind.text).isSome = true := by cases kind <;> rfl
  have isIntroduced : introduced ⟨.name kind.text, 0⟩ ⟨.name kind.text, 0⟩ = operation := by
    simp [introduced, notKeyword, isDescription, isOperation]
  rw [definition_eq, StateT.run_bind, run_peek, ← isIntroduced]
  rfl

/-- The keyword of a fragment introduces a fragment. -/
theorem run_definition_of_fragment (rest : List Lexeme) :
    StateT.run definition (.of (.name "fragment" :: rest)) =
      StateT.run fragment (.of (.name "fragment" :: rest)) := by
  rw [definition_eq, StateT.run_bind, run_peek]
  rfl

section Operations

variable
  (kind : OperationKind)
  (name? : Option String)
  {declarations : List VariableDefinition}
  {directives : List Directive}
  {selections : List Selection}
  (readableDeclarations : ∀ declared ∈ declarations, declared.Readable)
  (readableDirectives : ∀ directive ∈ directives, directive.Readable false)
  (readableSelections : ∀ selection ∈ selections, selection.Readable)

include readableDeclarations readableDirectives readableSelections

theorem reads_operationBody
    (undoubled : ∀ declared ∈ declarations, declared.type.Undoubled)
    (nonempty : selections ≠ [])
    (filled : ∀ selection ∈ selections, selection.Filled)
    (rest : List Lexeme) :
    Reads (operationBody kind name?)
      (inParentheses VariableDefinition.lexemes declarations ++ (directiveLexemes directives ++
        (Selection.bracedLexemes selections ++ rest)))
      (.operation kind name? declarations directives selections) rest := by
  have readsSet := reads_selectionSet readableSelections nonempty filled rest
  have follows : Avoids [.atSign, .parenL] _ :=
    avoids_bracedLexemes (by simp) selections rest
  refine .bind (reads_inParentheses (by simp)
    (fun declared present => settles_variableDefinition (readableDeclarations declared present))
    undoubled ?_) ?_
  · exact avoids_directives (by simp) _ (follows.mono (by simp))
  · exact .bind (reads_directives readableDirectives follows) (.bind readsSet (.pure _ _))

/-- A doubly marked type is refused before the selections are reached. -/
theorem fails_operationBody
    (incomplete : ¬((∀ declared ∈ declarations, declared.type.Undoubled) ∧
      selections ≠ [] ∧ ∀ selection ∈ selections, selection.Filled))
    (rest : List Lexeme) :
    Fails (operationBody kind name?)
      (inParentheses VariableDefinition.lexemes declarations ++ (directiveLexemes directives ++
        (Selection.bracedLexemes selections ++ rest))) := by
  have settles : ∀ declared ∈ declarations, Settles .parenR declarationMarks variableDefinition
      VariableDefinition.lexemes (fun declared => declared.type.Undoubled) declared :=
    fun declared present => settles_variableDefinition (readableDeclarations declared present)
  by_cases undoubled : ∀ declared ∈ declarations, declared.type.Undoubled
  · have bad := empty_or_exists_unfilled fun fine => incomplete ⟨undoubled, fine⟩
    have failsSet := fails_selectionSet readableSelections bad rest
    have follows : Avoids [.atSign, .parenL] _ :=
      avoids_bracedLexemes (by simp) selections rest
    refine (reads_inParentheses (by simp) settles undoubled ?_).bind_fails ?_
    · exact avoids_directives (by simp) _ (follows.mono (by simp))
    · exact (reads_directives readableDirectives follows).bind_fails (failsSet.bind _)
  · push Not at undoubled
    exact (fails_inParentheses (by simp) settles
      (fun rest => (fails_expect (by simp)).bind _) undoubled _).bind _

end Operations

theorem reads_definition
    {definition : Definition}
    (readable : definition.Readable)
    (complete : definition.Complete)
    (rest : List Lexeme) :
    Reads Parser.definition (definition.lexemes ++ rest) definition rest := by
  cases definition with
  | operation kind name? declarations directives selections =>
    obtain ⟨readableDeclarations, readableDirectives, readableSelections⟩ := readable
    obtain ⟨undoubled, nonempty, filled⟩ := complete
    have reads := reads_operationBody kind name? readableDeclarations readableDirectives
      readableSelections undoubled nonempty filled rest
    obtain ⟨mark, body, split⟩ :=
      exists_punctuator_cons_of_operation declarations directives selections rest
    simp only [Definition.lexemes, List.cons_append, List.append_assoc]
    rw [split] at reads ⊢
    rw [Reads, run_definition_of_operation]
    exact reads_named kind name? reads
  | fragment name condition directives selections =>
    obtain ⟨notOn, readableDirectives, readableSelections⟩ := readable
    obtain ⟨nonempty, filled⟩ := complete
    have readsSet := reads_selectionSet readableSelections nonempty filled rest
    have follows : Avoids [.atSign, .parenL] _ :=
      avoids_bracedLexemes (by simp) selections rest
    simp only [Definition.lexemes, List.cons_append, List.append_assoc]
    rw [Reads, run_definition_of_fragment]
    exact Reads.bind (reads_keyword _ _) (.bind (reads_fragmentName notOn _)
      (.bind (reads_keyword _ _) (.bind (reads_name _ _)
        (.bind (reads_directives readableDirectives follows)
          (.bind readsSet (.pure _ _))))))
  | _ => exact readable.elim

theorem fails_definition
    {definition : Definition}
    (readable : definition.Readable)
    (incomplete : ¬definition.Complete)
    (rest : List Lexeme) :
    Fails Parser.definition (definition.lexemes ++ rest) := by
  cases definition with
  | operation kind name? declarations directives selections =>
    obtain ⟨readableDeclarations, readableDirectives, readableSelections⟩ := readable
    have fails := fails_operationBody kind name? readableDeclarations readableDirectives
      readableSelections incomplete rest
    obtain ⟨mark, body, split⟩ :=
      exists_punctuator_cons_of_operation declarations directives selections rest
    simp only [Definition.lexemes, List.cons_append, List.append_assoc]
    rw [split] at fails ⊢
    rw [Fails, run_definition_of_operation]
    exact fails_named kind name? fails
  | fragment name condition directives selections =>
    obtain ⟨notOn, readableDirectives, readableSelections⟩ := readable
    have failsSet := fails_selectionSet readableSelections (empty_or_exists_unfilled incomplete)
      rest
    have follows : Avoids [.atSign, .parenL] _ :=
      avoids_bracedLexemes (by simp) selections rest
    simp only [Definition.lexemes, List.cons_append, List.append_assoc]
    rw [Fails, run_definition_of_fragment]
    exact (reads_keyword _ _).bind_fails ((reads_fragmentName notOn _).bind_fails
      ((reads_keyword _ _).bind_fails ((reads_name _ _).bind_fails
        ((reads_directives readableDirectives follows).bind_fails
          (failsSet.bind _)))))
  | _ => exact readable.elim

/-! ## Documents -/

/-- The definition is read by itself: it begins like no end of a text, and it is read
whatever follows. -/
structure ReadsAlone (definition : Definition) : Prop where
  /-- The definition begins with a lexeme. -/
  begins : ∃ lexeme body, definition.lexemes = lexeme :: body ∧ lexeme ≠ .endOfText
  /-- The definition is read. -/
  reads : ∀ rest, Reads Parser.definition (definition.lexemes ++ rest) definition rest

theorem exists_lexeme_cons
    {definition : Definition}
    (readable : definition.Readable) :
    ∃ lexeme body, definition.lexemes = lexeme :: body ∧ lexeme ≠ .endOfText := by
  cases definition with
  | operation kind name? declarations directives selections => exact ⟨_, _, rfl, nofun⟩
  | fragment name condition directives selections => exact ⟨_, _, rfl, nofun⟩
  | _ => exact readable.elim

theorem readsAlone_of_readable
    {definition : Definition}
    (readable : definition.Readable)
    (complete : definition.Complete) :
    ReadsAlone definition :=
  ⟨exists_lexeme_cons readable, reads_definition readable complete⟩

/-- Definitions that are read one by one are no document's end. -/
theorem reads_definition_bind
    {α : Type}
    {lexemes : List Lexeme}
    (begins : ∃ lexeme body, lexemes = lexeme :: body ∧ lexeme ≠ .endOfText)
    (rest : List Lexeme)
    {atEnd next : Parser α} :
    StateT.run (do if (← peek).lexeme = .endOfText then atEnd else next) (.of (lexemes ++ rest)) =
      StateT.run next (.of (lexemes ++ rest)) := by
  obtain ⟨lexeme, body, rfl, notEnd⟩ := begins
  rw [List.cons_append, StateT.run_bind, run_peek]
  exact congrArg (StateT.run · _) (if_neg notEnd)

/-- Definitions that are written one after the other are read one by one, each in front of
the others. -/
inductive ReadsInTurn (written : Definition → List Lexeme) : List Definition → Prop
  | nil : ReadsInTurn written []
  | cons {definition : Definition} {definitions : List Definition} :
      (∃ lexeme body, written definition = lexeme :: body ∧ lexeme ≠ .endOfText) →
      Reads Parser.definition (written definition ++ definitions.flatMap written) definition
        (definitions.flatMap written) →
      ReadsInTurn written definitions →
      ReadsInTurn written (definition :: definitions)

theorem ReadsInTurn.of_readsAlone
    {definitions : List Definition}
    (alone : ∀ definition ∈ definitions, ReadsAlone definition) :
    ReadsInTurn Definition.lexemes definitions := by
  induction definitions with
  | nil => exact .nil
  | cons definition definitions inductionHypothesis =>
    obtain ⟨begins, reads⟩ := alone definition (by simp)
    exact .cons begins (reads _) (inductionHypothesis fun other present =>
      alone other (by simp [present]))

section Turns

variable
  {written : Definition → List Lexeme}
  {definitions : List Definition}
  (turns : ReadsInTurn written definitions)

include turns

theorem reads_definitionsWithin
    {count : Nat}
    (enough : definitions.length < count) :
    Reads (definitionsWithin count) (definitions.flatMap written) definitions [] := by
  obtain ⟨count, rfl⟩ : ∃ fewer, count = fewer + 1 := ⟨count - 1, by omega⟩
  induction turns generalizing count with
  | nil => exact .bind (reads_peek _) (.ite_true rfl (.pure _ _))
  | cons begins reads _ inductionHypothesis =>
    obtain ⟨count, rfl⟩ : ∃ fewer, count = fewer + 1 :=
      ⟨count - 1, by simp only [List.length_cons] at enough; omega⟩
    have readsOthers := inductionHypothesis count
      (by simp only [List.length_cons] at enough; omega)
    rw [List.flatMap_cons, Reads, definitionsWithin, reads_definition_bind begins]
    exact Reads.bind reads (.bind readsOthers (.pure _ _))

theorem length_definitions_le : definitions.length ≤ (definitions.flatMap written).length := by
  induction turns with
  | nil => simp
  | cons begins _ _ inductionHypothesis =>
    obtain ⟨lexeme, body, front, -⟩ := begins
    simp only [List.flatMap_cons, List.length_append, List.length_cons, front]
    omega

/-- Definitions that are read one by one are read as a document. -/
theorem reads_document
    (nonempty : definitions ≠ []) :
    Reads Parser.document (definitions.flatMap written) ⟨definitions⟩ [] := by
  cases turns with
  | nil => exact absurd rfl nonempty
  | @cons definition definitions _ reads turns =>
    have fewer := length_definitions_le turns
    have readsOthers := @reads_definitionsWithin _ _ turns
      ((definitions.flatMap written).length - 1 + 2) (by omega)
    rw [List.flatMap_cons]
    exact .bind reads (.bind (reads_bound _) (.bind readsOthers (.pure _ _)))

end Turns

theorem fails_definitionsWithin
    {definitions : List Definition}
    (readable : ∀ definition ∈ definitions, definition.Readable)
    (incomplete : ∃ definition ∈ definitions, ¬definition.Complete)
    (count : Nat) :
    Fails (definitionsWithin count) (definitions.flatMap Definition.lexemes) := by
  induction count generalizing definitions with
  | zero => exact (reads_peek _).bind_fails ⟨_, run_unexpected _ _⟩
  | succ count inductionHypothesis =>
    cases definitions with
    | nil => simp at incomplete
    | cons definition definitions =>
      rw [List.flatMap_cons, Fails, definitionsWithin,
        reads_definition_bind (exists_lexeme_cons (readable definition (by simp)))]
      by_cases isComplete : definition.Complete
      · have readsDefinition := reads_definition (readable definition (by simp)) isComplete
          (definitions.flatMap Definition.lexemes)
        refine readsDefinition.bind_fails (.bind ?_ _)
        apply inductionHypothesis
        · intro other present
          exact readable other (by simp [present])
        · simpa [isComplete] using incomplete
      · exact (fails_definition (readable definition (by simp)) isComplete _).bind _

/-- The lexemes of a document that is not complete are refused. -/
theorem fails_document
    {document : Document}
    (readable : ∀ definition ∈ document.definitions, definition.Readable)
    (incomplete : ¬document.Complete) :
    Fails Parser.document document.lexemes := by
  obtain ⟨definitions⟩ := document
  cases definitions with
  | nil =>
    have failsAtEnd : Fails Parser.definition [] := ⟨⟨.unexpected .endOfText, 0⟩, rfl⟩
    exact failsAtEnd.bind _
  | cons definition definitions =>
    have readableOthers : ∀ other ∈ definitions, other.Readable :=
      fun other present => readable other (by simp [present])
    rw [Document.lexemes, List.flatMap_cons]
    by_cases isComplete : definition.Complete
    · have readsDefinition := reads_definition (readable definition (by simp)) isComplete
        (definitions.flatMap Definition.lexemes)
      refine readsDefinition.bind_fails ((reads_bound _).bind_fails (.bind ?_ _))
      apply fails_definitionsWithin readableOthers
      by_contra fine
      push Not at fine
      exact incomplete ⟨by simp, by simpa [isComplete] using fine⟩
    · exact (fails_definition (readable definition (by simp)) isComplete _).bind _

/-! ## Texts -/

theorem lexed_front_eq (lexemes : List Lexeme) :
    (⟨⟨.endOfText, 0⟩, lexemes.map (⟨·, 0⟩), .ok 0⟩ : Cursor).lexed =
      .of (.endOfText :: lexemes) := by
  simp [Cursor.lexed, Tokens.lexed, Lexed.of, Function.comp_def]

/-- A placeless reader makes of a text what it makes of the lexemes of the text. -/
theorem mapError_run_of_lexed
    {α : Type}
    {parser : Parser α}
    (placeless : Placeless parser)
    {text : String}
    {lexemes : List Lexeme}
    (read : lexed text.toList = .of lexemes) :
    (run parser text).mapError SyntaxError.cause =
      ((StateT.run parser (.of lexemes)).map Prod.fst).mapError SyntaxError.cause := by
  have placelessAfter : Placeless (next >>= fun _ => parser) :=
    .bind placeless_next fun _ => placeless
  have same : (front (tokenize text)).lexed =
      (⟨⟨.endOfText, 0⟩, lexemes.map (⟨·, 0⟩), .ok 0⟩ : Cursor).lexed := by
    rw [lexed_front, lexed_tokenize, read, lexed_front_eq]
    rfl
  have moved : StateT.run (next >>= fun _ => parser)
      ⟨⟨.endOfText, 0⟩, lexemes.map (⟨·, 0⟩), .ok 0⟩ = StateT.run parser (.of lexemes) := by
    rw [StateT.run_bind, run_next]
    cases lexemes <;> rfl
  rw [mapError_run, placelessAfter _ _ same, moved]
  cases StateT.run parser (.of lexemes) <;> rfl

end Parser

namespace Document

/-- A text with the lexemes of definitions that are read one by one stands for the document
with these definitions. -/
theorem parse_of_readsInTurn
    {written : Definition → List Lexeme}
    {definitions : List Definition}
    (nonempty : definitions ≠ [])
    (turns : Parser.ReadsInTurn written definitions)
    {text : String}
    (read : lexed text.toList = .of (definitions.flatMap written)) :
    parse text = .ok ⟨definitions⟩ := by
  have outcome := Parser.mapError_run_of_lexed Parser.placeless_document read
  rw [Parser.reads_document turns nonempty] at outcome
  exact Outcome.mapError_eq_ok_iff.mp outcome

/-- A text with the lexemes of definitions that are read by themselves stands for the
document with these definitions. -/
theorem parse_of_readsAlone
    {definitions : List Definition}
    (nonempty : definitions ≠ [])
    (alone : ∀ definition ∈ definitions, Parser.ReadsAlone definition)
    {text : String}
    (read : lexed text.toList = .of (definitions.flatMap Definition.lexemes)) :
    parse text = .ok ⟨definitions⟩ :=
  parse_of_readsInTurn nonempty (.of_readsAlone alone) read

/-- A text with the lexemes of a complete document stands for the document. -/
theorem parse_of_complete
    {document : Document}
    (readable : ∀ definition ∈ document.definitions, definition.Readable)
    (complete : document.Complete)
    {text : String}
    (read : lexed text.toList = .of document.lexemes) :
    parse text = .ok document := by
  obtain ⟨nonempty, complete⟩ := complete
  refine parse_of_readsAlone nonempty (fun definition present => ?_) read
  exact Parser.readsAlone_of_readable (readable definition present) (complete definition present)

/-- A text with the lexemes of a document that is not complete is refused. -/
theorem parse_of_not_complete
    {document : Document}
    (readable : ∀ definition ∈ document.definitions, definition.Readable)
    (incomplete : ¬document.Complete)
    {text : String}
    (read : lexed text.toList = .of document.lexemes) :
    ∃ error, parse text = .error error := by
  have outcome := Parser.mapError_run_of_lexed Parser.placeless_document read
  obtain ⟨error, failed⟩ := Parser.fails_document readable incomplete
  rw [failed] at outcome
  change (parse text).mapError _ = .error error.cause at outcome
  cases parsed : parse text with
  | error found => exact ⟨found, rfl⟩
  | ok found => simp [parsed, Except.mapError] at outcome

end Document

/-- A text with lexemes that a reader reads to their end stands for what it reads. -/
theorem Parser.run_finish_of_reads
    {α : Type}
    {parser : Parser α}
    (placeless : Placeless parser)
    {lexemes : List Lexeme}
    {value : α}
    (reads : Reads parser lexemes value [])
    {text : String}
    (read : lexed text.toList = .of lexemes) :
    run (do
      let value ← parser
      finish
      return value) text = .ok value := by
  have placelessToEnd : Placeless (do
      let value ← parser
      finish
      return value) :=
    .bind placeless fun _ => .bind placeless_finish fun _ => .pure _
  have outcome := mapError_run_of_lexed placelessToEnd read
  have readsEnd : Reads finish [] () [] := rfl
  have readsToEnd : Reads (do
      let value ← parser
      finish
      return value) lexemes value [] :=
    .bind reads (.bind readsEnd (.pure _ _))
  rw [readsToEnd] at outcome
  exact Outcome.mapError_eq_ok_iff.mp outcome

/-- A text with the lexemes of a value that can be read back stands for the value. -/
theorem Value.parse_of_readable
    {constant : Bool}
    {value : Value}
    (readable : value.Readable constant)
    {text : String}
    (read : lexed text.toList = .of value.lexemes) :
    parse constant text = .ok value := by
  have reads := Parser.reads_value readable []
  rw [List.append_nil] at reads
  exact Parser.run_finish_of_reads (Parser.placeless_value constant) reads read

/-- A text with the lexemes of a type with no doubled mark stands for the type. -/
theorem TypeRef.parse_of_undoubled
    {type : TypeRef}
    (undoubled : type.Undoubled)
    {text : String}
    (read : lexed text.toList = .of type.lexemes) :
    parse text = .ok type := by
  have reads := Parser.reads_typeRef undoubled (Avoids.nil _)
  rw [List.append_nil] at reads
  exact Parser.run_finish_of_reads Parser.placeless_typeRef reads read

end Source
end GraphQL
