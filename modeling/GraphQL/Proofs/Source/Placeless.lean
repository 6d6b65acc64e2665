import GraphQL.Proofs.Source.Position
import GraphQL.Source.Equivalence

/-!
# Layout does not matter to the grammar

Every reader of the grammar is placeless, up to the reader of documents.  So a text is
parsed by its lexemes: two texts that are read as the same lexemes are both refused, or
they stand for one document and are equivalent.
-/

namespace GraphQL
namespace Source

namespace Parser

variable {α : Type}

/-! ## Values and types -/

theorem placeless_valueWithin (constant : Bool) (depth : Nat) :
    Placeless (valueWithin constant depth) := by
  induction depth with
  | zero => exact .peek_bind fun _ _ _ => .unexpected _ _ _
  | succ depth nested =>
    have placelessField : Placeless (do
        let field ← name
        expect .colon
        return (field, ← valueWithin constant depth)) :=
      .bind placeless_name fun _ => .bind (placeless_expect _) fun _ =>
        .bind nested fun _ => .pure _
    apply Alike.peek_bind
    intro lexeme place elsewhere
    cases lexeme with
    | punctuator mark =>
      cases mark with
      | bracketL =>
        exact .bind placeless_next fun _ => .bind (placeless_items nested _) fun _ => .pure _
      | braceL =>
        exact .bind placeless_next fun _ =>
          .bind (placeless_items placelessField _) fun _ => .pure _
      | dollar =>
        refine .bind placeless_next fun _ => .ite (.peek_bind ?_) ?_
        · intro next _ _
          cases next with
          | name word => exact .throw rfl
          | _ => exact .unexpected _ _ _
        · exact .bind placeless_name fun _ => .pure _
      | _ => exact .unexpected _ _ _
    | endOfText => exact .unexpected _ _ _
    | _ => exact .bind placeless_next fun _ => .pure _

theorem placeless_value (constant : Bool) : Placeless (value constant) :=
  .bind placeless_bound fun _ => placeless_valueWithin constant _

/-- The mark after a type, if there is one. -/
def marked (type : TypeRef) : Parser TypeRef := do
  if ← Parser.optional .bang then return .nonNull type else return type

/-- A type up to the mark after it. -/
def unmarkedWithin (depth : Nat) : Parser TypeRef := do
  if ← Parser.optional .bracketL then
    let item ← typeRefWithin depth
    expect .bracketR
    return .list item
  else
    return .named (← name)

theorem typeRefWithin_succ (depth : Nat) :
    typeRefWithin (depth + 1) = unmarkedWithin depth >>= marked := by
  rw [typeRefWithin, unmarkedWithin, bind_assoc]
  congr 1
  funext opened
  cases opened <;> simp [marked]

theorem placeless_marked (type : TypeRef) : Placeless (marked type) :=
  .bind (placeless_optional _) fun _ => .ite (.pure _) (.pure _)

theorem placeless_typeRefWithin (depth : Nat) : Placeless (typeRefWithin depth) := by
  induction depth with
  | zero => exact .peek_bind fun _ _ _ => .unexpected _ _ _
  | succ depth nested =>
    rw [typeRefWithin_succ]
    refine .bind (.bind (placeless_optional _) fun _ => .ite ?_ ?_) placeless_marked
    · exact .bind nested fun _ => .bind (placeless_expect _) fun _ => .pure _
    · exact .bind placeless_name fun _ => .pure _

theorem placeless_typeRef : Placeless typeRef :=
  .bind placeless_bound fun _ => placeless_typeRefWithin _

theorem placeless_defaultValue : Placeless defaultValue :=
  .bind (placeless_optional _) fun _ =>
    .ite (.bind (placeless_value true) fun _ => .pure _) (.pure _)

/-! ## Arguments and directives -/

theorem placeless_argument (constant : Bool) : Placeless (argument constant) :=
  .bind placeless_name fun _ => .bind (placeless_expect _) fun _ =>
    .bind (placeless_value constant) fun _ => .pure _

theorem placeless_arguments (constant : Bool) : Placeless (arguments constant) :=
  placeless_optionalEnclosed (placeless_argument constant) _ _

theorem placeless_directiveBody (constant : Bool) : Placeless (directiveBody constant) :=
  .bind placeless_name fun _ => .bind (placeless_arguments constant) fun _ => .pure _

theorem placeless_directives (constant : Bool) : Placeless (directives constant) :=
  .bind placeless_bound fun _ => placeless_itemsAfter (placeless_directiveBody constant) _ _

/-! ## Operations and fragments -/

theorem placeless_fragmentName : Placeless fragmentName :=
  .peek_bind fun _ _ _ => .ite (.unexpected _ _ _) placeless_name

/-- An inline fragment after its condition. -/
def inlineFragmentBody (depth : Nat) (condition? : Option String) : Parser Selection := do
  let applied ← directives false
  return .inlineFragment condition? applied
    (← enclosed .braceL .braceR (selectionWithin depth))

/-- A field after its name. -/
def fieldBody (depth : Nat) (alias? : Option String) (field : String) : Parser Selection := do
  let given ← arguments false
  let applied ← directives false
  let selections ←
    if ← isAt .braceL then enclosed .braceL .braceR (selectionWithin depth) else pure []
  return .field alias? field given applied selections

theorem selectionWithin_succ (depth : Nat) :
    selectionWithin (depth + 1) = (do
      if ← Parser.optional .spread then
        if ← optionalKeyword "on" then
          inlineFragmentBody depth (some (← name))
        else
          match (← peek).lexeme with
          | .name _ =>
            let fragment ← fragmentName
            return .spread fragment (← directives false)
          | _ => inlineFragmentBody depth none
      else
        let first ← name
        if ← Parser.optional .colon then
          fieldBody depth (some first) (← name)
        else
          fieldBody depth none first) := rfl

theorem placeless_selectionWithin (depth : Nat) : Placeless (selectionWithin depth) := by
  induction depth with
  | zero => exact .peek_bind fun _ _ _ => .unexpected _ _ _
  | succ depth nested =>
    have placelessSet := placeless_enclosed nested .braceL .braceR
    have placelessFragment (condition? : Option String) :
        Placeless (inlineFragmentBody depth condition?) :=
      .bind (placeless_directives false) fun _ => .bind placelessSet fun _ => .pure _
    have placelessField (alias? : Option String) (field : String) :
        Placeless (fieldBody depth alias? field) :=
      .bind (placeless_arguments false) fun _ => .bind (placeless_directives false) fun _ =>
        .bind (placeless_isAt _) fun _ =>
          .ite (.bind placelessSet fun _ => .pure _) (.bind (.pure _) fun _ => .pure _)
    rw [selectionWithin_succ]
    refine .bind (placeless_optional _) fun _ => .ite ?_ ?_
    · refine .bind (placeless_optionalKeyword _) fun _ => .ite ?_ (.peek_bind ?_)
      · exact .bind placeless_name fun _ => placelessFragment _
      · intro lexeme _ _
        cases lexeme with
        | name text =>
          exact .bind placeless_fragmentName fun _ =>
            .bind (placeless_directives false) fun _ => .pure _
        | _ => exact placelessFragment none
    · refine .bind placeless_name fun _ => .bind (placeless_optional _) fun _ => .ite ?_ ?_
      · exact .bind placeless_name fun _ => placelessField _ _
      · exact placelessField _ _

theorem placeless_selectionSet : Placeless selectionSet :=
  .bind placeless_bound fun _ => placeless_enclosed (placeless_selectionWithin _) _ _

theorem placeless_operationKind : Placeless operationKind := by
  apply Alike.peek_bind
  intro lexeme place elsewhere
  cases lexeme with
  | name word =>
    apply Alike.bind placeless_next
    intro _
    cases OperationKind.ofText? word with
    | some kind => exact .pure _
    | none => exact .unexpected _ _ _
  | _ => exact .wrong _ _ _ _

theorem placeless_variableDefinition : Placeless variableDefinition :=
  .bind (placeless_expect _) fun _ => .bind placeless_name fun _ =>
    .bind (placeless_expect _) fun _ => .bind placeless_typeRef fun _ =>
      .bind placeless_defaultValue fun _ => .bind (placeless_directives true) fun _ => .pure _

/-- An operation after its name. -/
def operationBody (kind : OperationKind) (name? : Option String) : Parser Definition := do
  let declared ← optionalEnclosed .parenL .parenR variableDefinition
  let applied ← directives false
  return .operation kind name? declared applied (← selectionSet)

theorem operation_eq :
    operation = (do
      let kind ← operationKind
      match (← peek).lexeme with
      | .name _ => operationBody kind (some (← name))
      | _ => operationBody kind none) := rfl

theorem placeless_operation : Placeless operation := by
  have placelessBody (kind : OperationKind) (name? : Option String) :
      Placeless (operationBody kind name?) :=
    .bind (placeless_optionalEnclosed placeless_variableDefinition _ _) fun _ =>
      .bind (placeless_directives false) fun _ => .bind placeless_selectionSet fun _ => .pure _
  rw [operation_eq]
  refine .bind placeless_operationKind fun kind => .peek_bind ?_
  intro lexeme _ _
  cases lexeme with
  | name text => exact .bind placeless_name fun _ => placelessBody _ _
  | _ => exact placelessBody _ _

theorem placeless_fragment : Placeless fragment :=
  .bind (placeless_keyword _) fun _ => .bind placeless_fragmentName fun _ =>
    .bind (placeless_keyword _) fun _ => .bind placeless_name fun _ =>
      .bind (placeless_directives false) fun _ => .bind placeless_selectionSet fun _ => .pure _

/-! ## Type systems -/

theorem placeless_description : Placeless description := by
  apply Alike.peek_bind
  intro lexeme place elsewhere
  cases lexeme with
  | string text => exact .bind placeless_next fun _ => .pure _
  | blockString text => exact .bind placeless_next fun _ => .pure _
  | _ => exact .pure _

theorem placeless_inputValue : Placeless inputValue :=
  .bind placeless_description fun _ => .bind placeless_name fun _ =>
    .bind (placeless_expect _) fun _ => .bind placeless_typeRef fun _ =>
      .bind placeless_defaultValue fun _ => .bind (placeless_directives true) fun _ => .pure _

theorem placeless_parameters : Placeless parameters :=
  placeless_optionalEnclosed placeless_inputValue _ _

theorem placeless_fieldDefinition : Placeless fieldDefinition :=
  .bind placeless_description fun _ => .bind placeless_name fun _ =>
    .bind placeless_parameters fun _ => .bind (placeless_expect _) fun _ =>
      .bind placeless_typeRef fun _ => .bind (placeless_directives true) fun _ => .pure _

theorem placeless_fieldDefinitions : Placeless fieldDefinitions :=
  placeless_optionalEnclosed placeless_fieldDefinition _ _

theorem placeless_interfaces : Placeless interfaces :=
  .bind (placeless_optionalKeyword _) fun _ =>
    .ite (placeless_delimited placeless_name _) (.pure _)

theorem placeless_enumValueDefinition : Placeless enumValueDefinition := by
  refine .bind placeless_description fun description? => .peek_bind fun lexeme _ _ => ?_
  have placelessRest : Placeless (do
      let symbol ← name
      return EnumValueDefinition.mk description? symbol (← directives true)) :=
    .bind placeless_name fun _ => .bind (placeless_directives true) fun _ => .pure _
  exact .ite (.bind (.throw rfl) fun _ => placelessRest) placelessRest

theorem placeless_rootType : Placeless rootType :=
  .bind placeless_operationKind fun _ => .bind (placeless_expect _) fun _ =>
    .bind placeless_name fun _ => .pure _

theorem placeless_typeDefinition (introduction : String) :
    Placeless (typeDefinition introduction) := by
  refine .bind placeless_name fun _ => .ite ?_ ?_
  · exact .bind placeless_interfaces fun _ => .bind (placeless_directives true) fun _ =>
      .bind placeless_fieldDefinitions fun _ => .ite (.pure _) (.pure _)
  · refine .bind (placeless_directives true) fun _ => .ite ?_ (.ite ?_ (.ite ?_ (.pure _)))
    · refine .bind (placeless_optional _) fun _ => .ite ?_ ?_
      · exact .bind (placeless_delimited placeless_name _) fun _ => .pure _
      · exact .bind (.pure _) fun _ => .pure _
    · exact .bind (placeless_optionalEnclosed placeless_enumValueDefinition _ _) fun _ => .pure _
    · exact .bind (placeless_optionalEnclosed placeless_inputValue _ _) fun _ => .pure _

theorem placeless_directiveLocation : Placeless directiveLocation :=
  .peek_bind fun _ _ _ => .bind placeless_name fun _ => .ite (.pure _) (.unexpected _ _ _)

theorem placeless_directiveDefinition : Placeless directiveDefinition :=
  .bind (placeless_expect _) fun _ => .bind placeless_name fun _ =>
    .bind placeless_parameters fun _ => .bind (placeless_optionalKeyword _) fun _ =>
      .bind (placeless_keyword _) fun _ =>
        .bind (placeless_delimited placeless_directiveLocation _) fun _ => .pure _

theorem placeless_typeSystemDefinition (introduction : String) :
    Placeless (typeSystemDefinition introduction) := by
  refine .bind placeless_description fun _ => .bind (placeless_keyword _) fun _ =>
    .ite ?_ (.ite ?_ ?_)
  · exact .bind (placeless_directives true) fun _ =>
      .bind (placeless_enclosed placeless_rootType _ _) fun _ => .pure _
  · exact .bind placeless_directiveDefinition fun _ => .pure _
  · exact .bind (placeless_typeDefinition _) fun _ => .pure _

theorem placeless_extension : Placeless extension := by
  apply Alike.lookahead_bind
  intro lexeme place elsewhere
  have placelessRefusal : Placeless (do unexpected (← peek) : Parser Definition) :=
    .peek_bind fun _ _ _ => .unexpected _ _ _
  cases lexeme with
  | name word =>
    refine .ite ?_ (.ite ?_ (.unexpected _ _ _))
    · exact .bind placeless_next fun _ => .bind placeless_next fun _ =>
        .bind (placeless_directives true) fun _ =>
          .bind (placeless_optionalEnclosed placeless_rootType _ _) fun _ =>
            .ite placelessRefusal (.pure _)
    · exact .bind placeless_next fun _ => .bind placeless_next fun _ =>
        .bind (placeless_typeDefinition _) fun _ => .ite placelessRefusal (.pure _)
  | _ => exact .unexpected _ _ _

/-! ## Documents -/

/-- A definition whose keyword has been seen: it is the first token, or the one behind a
description. -/
def introduced (first keyword : Token) : Parser Definition :=
  match keyword.lexeme with
  | .name word =>
    if isTypeSystemKeyword word then typeSystemDefinition word
    else if isDescription first.lexeme then throw ⟨.descriptionMisplaced, first.start⟩
    else if (OperationKind.ofText? word).isSome then operation
    else if word = "fragment" then fragment
    else if word = "extend" then extension
    else unexpected keyword
  | _ => unexpected keyword

theorem definition_eq :
    definition = (do
      let first ← peek
      if first.lexeme = .punctuator .braceL then
        return .operation .query none [] [] (← selectionSet)
      else if isDescription first.lexeme then
        introduced first (← lookahead)
      else
        introduced first first) := rfl

theorem alike_introduced (first keyword : Lexeme) (place elsewhere before behind : Nat) :
    Alike (introduced ⟨first, place⟩ ⟨keyword, before⟩)
      (introduced ⟨first, elsewhere⟩ ⟨keyword, behind⟩) := by
  cases keyword with
  | name word =>
    exact .ite (placeless_typeSystemDefinition _) (.ite (.throw rfl)
      (.ite placeless_operation (.ite placeless_fragment
        (.ite placeless_extension (.unexpected _ _ _)))))
  | _ => exact .unexpected _ _ _

theorem placeless_definition : Placeless definition := by
  rw [definition_eq]
  refine .peek_bind fun first place elsewhere => .ite ?_ (.ite (.lookahead_bind ?_) ?_)
  · exact .bind placeless_selectionSet fun _ => .pure _
  · intro keyword before behind
    exact alike_introduced _ _ _ _ _ _
  · exact alike_introduced _ _ _ _ _ _

theorem placeless_definitionsWithin (count : Nat) : Placeless (definitionsWithin count) := by
  induction count with
  | zero => exact .peek_bind fun _ _ _ => .unexpected _ _ _
  | succ count more =>
    refine .peek_bind fun _ _ _ => .ite (.pure _) ?_
    exact .bind placeless_definition fun _ => .bind more fun _ => .pure _

theorem placeless_document : Placeless document :=
  .bind placeless_definition fun _ => .bind placeless_bound fun _ =>
    .bind (placeless_definitionsWithin _) fun _ => .pure _

/-! ## Texts -/

/-- The place in front of tokens, before the first of them is met. -/
def front (tokens : Tokens) : Cursor :=
  ⟨⟨.endOfText, 0⟩, tokens.read, tokens.ending⟩

theorem lexed_front (tokens : Tokens) :
    (front tokens).lexed = .of [.endOfText] ++ tokens.lexed := rfl

theorem run_eq_map (parser : Parser α) (text : String) :
    run parser text =
      (StateT.run (next >>= fun _ => parser) (front (tokenize text))).map Prod.fst := by
  rw [StateT.run_bind, run_next]
  change ((front (tokenize text)).advance >>= fun cursor =>
    StateT.run parser cursor >>= fun outcome => .ok outcome.1) = _
  cases (front (tokenize text)).advance with
  | error error => rfl
  | ok cursor =>
    change (StateT.run parser cursor >>= _) = (StateT.run parser cursor).map Prod.fst
    cases StateT.run parser cursor <;> rfl

/-- The result or the cause of the error is what is seen without positions. -/
theorem mapError_run (parser : Parser α) (text : String) :
    (run parser text).mapError SyntaxError.cause =
      (seen (StateT.run (next >>= fun _ => parser) (front (tokenize text)))).map Prod.fst := by
  rw [run_eq_map]
  cases StateT.run (next >>= fun _ => parser) (front (tokenize text)) <;> rfl

/-- A placeless reader makes the same of texts with the same lexemes. -/
theorem mapError_run_eq_of_lexed_eq
    {parser : Parser α}
    (placeless : Placeless parser)
    {first second : String}
    (same : lexed first.toList = lexed second.toList) :
    (run parser first).mapError SyntaxError.cause =
      (run parser second).mapError SyntaxError.cause := by
  have placelessAfter : Placeless (next >>= fun _ => parser) :=
    .bind placeless_next fun _ => placeless
  rw [mapError_run, mapError_run, placelessAfter]
  rw [lexed_front, lexed_front, lexed_tokenize, lexed_tokenize, same]

end Parser

/-- Texts with the same lexemes are both refused, for the same cause, or stand for the
same document. -/
theorem Document.parse_eq_of_lexed_eq
    {first second : String}
    (same : lexed first.toList = lexed second.toList) :
    (∃ error other, Document.parse first = .error error ∧ Document.parse second = .error other ∧
      error.cause = other.cause) ∨
    ∃ document, Document.parse first = .ok document ∧ Document.parse second = .ok document := by
  have sameOutcome := Parser.mapError_run_eq_of_lexed_eq Parser.placeless_document same
  change (Document.parse first).mapError _ = (Document.parse second).mapError _ at sameOutcome
  cases parsed : Document.parse first with
  | error error =>
    cases parsedOther : Document.parse second with
    | error other => simp_all [Except.mapError]
    | ok document => simp [parsed, parsedOther, Except.mapError] at sameOutcome
  | ok document =>
    cases parsedOther : Document.parse second with
    | error other => simp [parsed, parsedOther, Except.mapError] at sameOutcome
    | ok otherDocument => simp_all [Except.mapError]

/-- Texts that stand for the same document are equivalent. -/
theorem equivalent_of_parse_eq
    {first second : String}
    {document : Document}
    (parsed : Document.parse first = .ok document)
    (parsedOther : Document.parse second = .ok document) :
    equivalent first second = .ok true := by
  simp [equivalent, normalizeBoth, normalize, parsed, parsedOther, Except.mapError, Except.map,
    bind, Except.bind, pure, Except.pure]

end Source
end GraphQL
