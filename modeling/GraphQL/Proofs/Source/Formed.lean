import GraphQL.Proofs.Source.Drawing
import GraphQL.Proofs.Source.Giving
import GraphQL.Proofs.Source.Parsing.TypeSystem

/-!
# Definitions as they are read

A definition that is read from some text is formed: besides being readable and complete, if it
is an operation or a fragment, it has what the grammar of type systems asks for.  An extension
holds something, a schema has root types, a directive is applied at known places, and no enum
value is called like a constant.
-/

namespace GraphQL
namespace Source

/-! ## Formed definitions -/

/-- The definition has what the grammar asks for. -/
def Definition.Formed : Definition → Prop
  | .schema _ directives roots =>
    (∀ directive ∈ directives, directive.Readable true) ∧ roots ≠ []
  | .schemaExtension directives roots =>
    (∀ directive ∈ directives, directive.Readable true) ∧
      (directives.isEmpty && roots.isEmpty) = false
  | .type _ definition => definition.Formed
  | .typeExtension extension =>
    extension.Formed ∧ (extension.directives.isEmpty && extension.body.isEmpty) = false
  | .directive _ definition => definition.Formed
  | definition => definition.Readable ∧ definition.Complete

theorem Definition.Formed.complete
    {definition : Definition}
    (formed : definition.Formed) :
    definition.Complete := by
  cases definition with
  | operation => exact formed.2
  | fragment => exact formed.2
  | _ => trivial

theorem Definition.formed_of_readable
    {definition : Definition}
    (readable : definition.Readable)
    (complete : definition.Complete) :
    definition.Formed := by
  cases definition with
  | operation => exact ⟨readable, complete⟩
  | fragment => exact ⟨readable, complete⟩
  | _ => exact readable.elim

namespace Parser

variable {α : Type}

/-! ## What readers give -/

/-- What is drawn from any lexemes is given. -/
theorem Draws.gives
    {parser : Parser α}
    {good : α → Prop}
    (draws : Draws (fun _ => True) parser good) :
    Gives parser good :=
  fun cursor value left ran =>
    (draws cursor value left ⟨trivial, fun _ _ => trivial, fun _ _ => trivial⟩ ran).2

theorem Gives.and
    {parser : Parser α}
    {good goodToo : α → Prop}
    (gives : Gives parser good)
    (givesToo : Gives parser goodToo) :
    Gives parser fun value => good value ∧ goodToo value :=
  fun cursor value left ran => ⟨gives cursor value left ran, givesToo cursor value left ran⟩

theorem undoubled_of_drawn
    {sound : Lexeme → Prop}
    {type : TypeRef}
    (drawn : type.Drawn sound) :
    type.Undoubled := by
  induction drawn with
  | named => trivial
  | list of _ inductionHypothesis => exact inductionHypothesis
  | nonNull of _ unmarked inductionHypothesis => exact ⟨unmarked, inductionHypothesis⟩

theorem gives_typeRef : Gives typeRef TypeRef.Undoubled :=
  draws_typeRef.gives.mono fun _ => undoubled_of_drawn

/-- There is at least one item, and all of them are good. -/
theorem gives_delimited
    {item : Parser α}
    {good : α → Prop}
    (gives : Gives item good)
    (delimiter : Punctuator) :
    Gives (delimited delimiter item) fun values => values ≠ [] ∧ ∀ value ∈ values, good value := by
  refine .after fun _ => gives.bind fun first isGood => .after fun _ =>
    (gives_itemsAfter gives delimiter _).bind fun rest areGood => .pure ?_
  exact ⟨nofun, List.forall_mem_cons.mpr ⟨isGood, areGood⟩⟩

/-! ## Operations and fragments -/

/-- Whatever is selected has selections wherever there have to be some. -/
theorem gives_selectionWithin_filled (depth : Nat) :
    Gives (selectionWithin depth) Selection.Filled := by
  induction depth with
  | zero => exact .after fun _ => .unexpected _
  | succ depth nested =>
    have givesSet : Gives (enclosed .braceL .braceR (selectionWithin depth)) fun selections =>
        selections ≠ [] ∧ Selection.AllFilled selections :=
      ((draws_enclosed (draws_selectionWithin depth) _ _).gives.and
        (gives_enclosed nested _ _)).mono fun _ ⟨drawn, filled⟩ =>
          ⟨drawn.1, (Selection.allFilled_iff _).mpr filled⟩
    have givesFragment (condition? : Option String) :
        Gives (inlineFragmentBody depth condition?) Selection.Filled :=
      .after fun _ => givesSet.bind fun _ filled => .pure filled
    have givesField (alias? : Option String) (field : String) :
        Gives (fieldBody depth alias? field) Selection.Filled := by
      have givesNone : Gives (Pure.pure []) Selection.AllFilled := .pure trivial
      refine .after fun _ => .after fun _ => .after fun _ => .ite (fun _ => ?_) fun _ => ?_
      · exact givesSet.bind fun _ filled => .pure filled.2
      · exact givesNone.bind fun _ filled => .pure filled
    rw [selectionWithin_succ]
    refine .after fun _ => .ite (fun _ => ?_) fun _ => ?_
    · refine .after fun _ => .ite (fun _ => .after fun _ => givesFragment _) fun _ =>
        .after fun token => ?_
      split
      · exact .after fun _ => .after fun _ => .pure trivial
      · exact givesFragment none
    · refine .after fun _ => .after fun _ => .ite (fun _ => ?_) fun _ => givesField _ _
      exact .after fun _ => givesField _ _

theorem gives_selectionSet_filled :
    Gives selectionSet fun selections =>
      selections ≠ [] ∧ ∀ selection ∈ selections, selection.Filled :=
  (draws_selectionSet.gives.and
    (.after fun _ => gives_enclosed (gives_selectionWithin_filled _) _ _)).mono
      fun _ ⟨drawn, filled⟩ => ⟨drawn.1, filled⟩

theorem gives_operation_formed : Gives operation Definition.Formed := by
  have givesDeclared : Gives variableDefinition fun declared => declared.type.Undoubled :=
    draws_variableDefinition.gives.mono fun _ drawn => undoubled_of_drawn drawn.type
  have givesBody (kind : OperationKind) (name? : Option String) :
      Gives (operationBody kind name?) Definition.Complete :=
    (gives_optionalEnclosed givesDeclared _ _).bind fun _ undoubled => .after fun _ =>
      gives_selectionSet_filled.bind fun _ filled => .pure ⟨undoubled, filled⟩
  have givesComplete : Gives operation Definition.Complete := by
    rw [operation_eq]
    refine .after fun kind => .after fun token => ?_
    split
    · exact .after fun _ => givesBody _ _
    · exact givesBody _ _
  exact (gives_operation.and givesComplete).mono fun _ ⟨readable, complete⟩ =>
    Definition.formed_of_readable readable complete

theorem gives_fragment_formed : Gives fragment Definition.Formed := by
  have givesComplete : Gives fragment Definition.Complete :=
    .after fun _ => .after fun _ => .after fun _ => .after fun _ => .after fun _ =>
      gives_selectionSet_filled.bind fun _ filled => .pure filled
  exact (gives_fragment.and givesComplete).mono fun _ ⟨readable, complete⟩ =>
    Definition.formed_of_readable readable complete

/-! ## Type systems -/

theorem gives_inputValue : Gives inputValue InputValue.Readable :=
  .after fun _ => .after fun _ => .after fun _ => gives_typeRef.bind fun _ undoubled =>
    gives_defaultValue.bind fun _ default => (gives_directives true).bind fun _ applied =>
      .pure ⟨undoubled, default, applied⟩

theorem gives_parameters :
    Gives parameters fun parameters => ∀ parameter ∈ parameters, parameter.Readable :=
  gives_optionalEnclosed gives_inputValue _ _

theorem gives_fieldDefinition : Gives fieldDefinition FieldDefinition.Readable :=
  .after fun _ => .after fun _ => gives_parameters.bind fun _ given => .after fun _ =>
    gives_typeRef.bind fun _ undoubled => (gives_directives true).bind fun _ applied =>
      .pure ⟨given, undoubled, applied⟩

/-- The symbol is tested as the text of the token that it is read from. -/
theorem gives_enumValueDefinition : Gives enumValueDefinition EnumValueDefinition.Readable := by
  refine .after fun description? => ?_
  intro cursor value left ran
  rw [StateT.run_bind, run_peek, Outcome.ok_bind] at ran
  split at ran
  · cases ran
  · next notReserved =>
    rw [StateT.run_bind] at ran
    obtain ⟨⟨symbol, between⟩, ranName, ran⟩ := Outcome.bind_eq_ok_iff.mp ran
    rw [lexeme_of_run_name ranName] at notReserved
    have givesRest : Gives
        (do return EnumValueDefinition.mk description? symbol (← directives true))
        EnumValueDefinition.Readable :=
      (gives_directives true).bind fun _ applied =>
        .pure ⟨by simpa [Lexeme.value?] using notReserved, applied⟩
    exact givesRest between value left ran

theorem gives_directiveLocation :
    Gives directiveLocation fun location => isDirectiveLocation location = true :=
  .after fun _ => .after fun _ => .ite (fun known => .pure known) fun _ => .unexpected _

theorem gives_directiveDefinition : Gives directiveDefinition DirectiveDefinition.Formed :=
  .after fun _ => .after fun _ => gives_parameters.bind fun _ given => .after fun _ =>
    .after fun _ => (gives_delimited gives_directiveLocation _).bind fun _ located =>
      .pure ⟨given, located.1, located.2⟩

theorem gives_typeDefinition (introduction : String) :
    Gives (typeDefinition introduction) TypeDefinition.Formed := by
  refine .after fun _ => .ite (fun _ => ?_) fun _ => ?_
  · refine .after fun _ => (gives_directives true).bind fun _ applied =>
      (gives_optionalEnclosed gives_fieldDefinition _ _).bind fun _ fields => ?_
    exact .ite (fun _ => .pure ⟨applied, fields⟩) fun _ => .pure ⟨applied, fields⟩
  · refine (gives_directives true).bind fun _ applied => .ite (fun _ => ?_) fun _ =>
      .ite (fun _ => ?_) fun _ => .ite (fun _ => ?_) fun _ => .pure ⟨applied, trivial⟩
    · exact .after fun _ => .ite (fun _ => .after fun _ => .pure ⟨applied, trivial⟩)
        fun _ => .pure ⟨applied, trivial⟩
    · exact (gives_optionalEnclosed gives_enumValueDefinition _ _).bind fun _ values =>
        .pure ⟨applied, values⟩
    · exact (gives_optionalEnclosed gives_inputValue _ _).bind fun _ fields =>
        .pure ⟨applied, fields⟩

theorem gives_typeSystemDefinition_formed (introduction : String) :
    Gives (typeSystemDefinition introduction) Definition.Formed := by
  refine .after fun _ => .after fun _ => .ite (fun _ => ?_) fun _ => .ite (fun _ => ?_) fun _ => ?_
  · have drawsRoot : Draws (fun _ => True) rootType _ := draws_rootType
    exact (gives_directives true).bind fun _ applied =>
      (draws_enclosed drawsRoot _ _).gives.bind fun _ roots => .pure ⟨applied, roots.1⟩
  · exact gives_directiveDefinition.bind fun _ formed => .pure formed
  · exact (gives_typeDefinition _).bind fun _ formed => .pure formed

theorem gives_extension_formed : Gives extension Definition.Formed := by
  have refuses : Gives (do unexpected (← peek)) Definition.Formed := .after fun _ => .unexpected _
  refine .after fun token => ?_
  split
  · refine .ite (fun _ => ?_) fun _ => .ite (fun _ => ?_) fun _ => .unexpected _
    · exact .after fun _ => .after fun _ => (gives_directives true).bind fun _ applied =>
        .after fun _ => .ite (fun _ => refuses) fun some =>
          .pure ⟨applied, by simpa using some⟩
    · exact .after fun _ => .after fun _ => (gives_typeDefinition _).bind fun _ formed =>
        .ite (fun _ => refuses) fun some => .pure ⟨formed, by simpa using some⟩
  · exact .unexpected _

/-! ## Documents -/

theorem gives_definition_formed : Gives definition Definition.Formed := by
  have givesIntroduced (first keyword : Token) :
      Gives (introduced first keyword) Definition.Formed := by
    unfold introduced
    split
    · exact .ite (fun _ => gives_typeSystemDefinition_formed _) fun _ => .ite (fun _ => .throw _)
        fun _ => .ite (fun _ => gives_operation_formed) fun _ => .ite
          (fun _ => gives_fragment_formed) fun _ => .ite (fun _ => gives_extension_formed)
            fun _ => .unexpected _
    · exact .unexpected _
  rw [definition_eq]
  refine .after fun first => .ite (fun _ => ?_) fun _ => .ite (fun _ => ?_) fun _ =>
    givesIntroduced _ _
  · exact (gives_selectionSet.and gives_selectionSet_filled).bind fun _ ⟨readable, filled⟩ =>
      .pure ⟨⟨nofun, nofun, readable⟩, nofun, filled⟩
  · exact .after fun keyword => givesIntroduced _ _

theorem gives_definitionsWithin_formed (count : Nat) :
    Gives (definitionsWithin count) fun found => ∀ definition ∈ found, definition.Formed := by
  induction count with
  | zero => exact .after fun _ => .unexpected _
  | succ count more =>
    refine .after fun _ => .ite (fun _ => .pure nofun) fun _ => ?_
    refine gives_definition_formed.bind fun _ formed => more.bind fun _ others => .pure ?_
    exact List.forall_mem_cons.mpr ⟨formed, others⟩

theorem gives_document_formed :
    Gives document fun found =>
      found.definitions ≠ [] ∧ ∀ definition ∈ found.definitions, definition.Formed := by
  refine gives_definition_formed.bind fun _ formed => .after fun _ =>
    (gives_definitionsWithin_formed _).bind fun _ others => .pure ?_
  exact ⟨nofun, List.forall_mem_cons.mpr ⟨formed, others⟩⟩

end Parser

/-- Every document that a text stands for has definitions, and all of them are formed. -/
theorem Document.formed_of_parse
    {text : String}
    {document : Document}
    (parsed : parse text = .ok document) :
    document.definitions ≠ [] ∧ ∀ definition ∈ document.definitions, definition.Formed := by
  obtain ⟨cursor, -, ran⟩ := Outcome.bind_eq_ok_iff.mp parsed
  obtain ⟨⟨found, left⟩, ranDocument, same⟩ := Outcome.bind_eq_ok_iff.mp ran
  obtain rfl := Except.ok.inj same
  exact Parser.gives_document_formed cursor found left ranDocument

end Source
end GraphQL
