import GraphQL.Proofs.Source.Drawn
import GraphQL.Proofs.Source.Rendering.Document

/-!
# Documents with steady block strings

The block strings of a document that is drawn from sound lexemes are sound.  Where all of them
are steady, canonical text is read as the lexemes that it is printed with.
-/

namespace GraphQL
namespace Source

/-! ## Block strings -/

/-- The block strings among the lexemes are sound. -/
def BlockStrings (sound : Lexeme → Prop) (lexemes : List Lexeme) : Prop :=
  ∀ text, .blockString text ∈ lexemes → sound (.blockString text)

section Lists

variable {sound : Lexeme → Prop}

@[simp] theorem blockStrings_nil : BlockStrings sound [] := nofun

@[simp] theorem blockStrings_cons_iff (lexeme : Lexeme) (lexemes : List Lexeme) :
    BlockStrings sound (lexeme :: lexemes) ↔
      (∀ text, lexeme = .blockString text → sound (.blockString text)) ∧
        BlockStrings sound lexemes := by
  simp only [BlockStrings, List.mem_cons, or_imp, forall_and, eq_comm]

@[simp] theorem blockStrings_append_iff (first second : List Lexeme) :
    BlockStrings sound (first ++ second) ↔
      BlockStrings sound first ∧ BlockStrings sound second := by
  simp only [BlockStrings, List.mem_append, or_imp, forall_and]

section Items

variable {α : Type} (written : α → List Lexeme) (values : List α)

@[simp] theorem blockStrings_flatMap_iff :
    BlockStrings sound (values.flatMap written) ↔
      ∀ value ∈ values, BlockStrings sound (written value) := by
  induction values with
  | nil => simp
  | cons value values inductionHypothesis => simp [inductionHypothesis]

@[simp] theorem blockStrings_inParentheses_iff :
    BlockStrings sound (inParentheses written values) ↔
      ∀ value ∈ values, BlockStrings sound (written value) := by
  cases values <;> simp [inParentheses]

@[simp] theorem blockStrings_inBraces_iff :
    BlockStrings sound (inBraces written values) ↔
      ∀ value ∈ values, BlockStrings sound (written value) := by
  cases values <;> simp [inBraces]

end Items

@[simp] theorem blockStrings_delimitedNames (delimiter : Punctuator) (names : List String) :
    BlockStrings sound (delimitedNames delimiter names) := by
  cases names <;> simp [delimitedNames]

@[simp] theorem blockStrings_interfaceLexemes (interfaces : List String) :
    BlockStrings sound (interfaceLexemes interfaces) := by
  rw [interfaceLexemes]
  split <;> simp

end Lists

/-! ## Parts -/

variable {sound : Lexeme → Prop}

theorem Value.blockStrings
    {value : Value}
    (drawn : value.Drawn sound) :
    BlockStrings sound value.lexemes := by
  induction drawn with
  | blockString text isSound => simpa [lexemes] using isSound
  | list items _ inductionHypothesis => simpa [lexemes] using inductionHypothesis
  | object fields _ _ inductionHypothesis => simpa [lexemes] using inductionHypothesis
  | _ => simp [lexemes]

theorem TypeRef.blockStrings (type : TypeRef) : BlockStrings sound type.lexemes := by
  induction type with
  | named name => simp [lexemes]
  | list of inductionHypothesis => simpa [lexemes] using inductionHypothesis
  | nonNull of inductionHypothesis => simpa [lexemes] using inductionHypothesis

theorem blockStrings_default
    {default? : Option Value}
    (drawn : ∀ value ∈ default?, value.Drawn sound) :
    BlockStrings sound (defaultLexemes default?) := by
  cases default? with
  | none => simp [defaultLexemes]
  | some default => simpa [defaultLexemes] using Value.blockStrings (drawn default rfl)

theorem blockStrings_description
    {description? : Option Description}
    (drawn : ∀ description ∈ description?, description.Drawn sound) :
    BlockStrings sound (descriptionLexemes description?) := by
  cases description? with
  | none => simp [descriptionLexemes]
  | some description =>
    have isSound := drawn description rfl
    obtain ⟨text, block⟩ := description
    cases block with
    | false => simp [descriptionLexemes]
    | true => simpa [descriptionLexemes, Description.Drawn] using isSound

theorem Argument.blockStrings
    {argument : Argument}
    (drawn : argument.Drawn sound) :
    BlockStrings sound argument.lexemes := by
  simpa [lexemes] using Value.blockStrings drawn.value

theorem blockStrings_directives
    {directives : List Directive}
    (drawn : ∀ directive ∈ directives, directive.Drawn sound) :
    BlockStrings sound (directiveLexemes directives) := by
  simp only [directiveLexemes, blockStrings_flatMap_iff]
  intro directive present
  simpa [Directive.lexemes] using fun argument isArgument =>
    Argument.blockStrings ((drawn directive present).arguments argument isArgument)

/-! ## Operations and fragments -/

theorem Selection.blockStrings
    {selection : Selection}
    (drawn : selection.Drawn sound) :
    BlockStrings sound selection.lexemes := by
  induction drawn with
  | field alias? name arguments directives selections _ _ given applied _ inductionHypothesis =>
    have ofArguments : BlockStrings sound (inParentheses Argument.lexemes arguments) := by
      simpa using fun argument present => Argument.blockStrings (given argument present)
    have label : BlockStrings sound (labelLexemes alias? name) := by
      cases alias? <;> simp [labelLexemes]
    have braces : BlockStrings sound
        (if selections.isEmpty then [] else bracedLexemes selections) := by
      split
      · simp
      · simpa [bracedLexemes] using inductionHypothesis
    rw [lexemes_field]
    simp only [blockStrings_append_iff]
    exact ⟨label, ofArguments, blockStrings_directives applied, braces⟩
  | spread name directives _ applied => simpa [lexemes] using blockStrings_directives applied
  | inlineFragment condition? directives selections _ applied _ inductionHypothesis =>
    have condition : BlockStrings sound (conditionLexemes condition?) := by
      cases condition? <;> simp [conditionLexemes]
    rw [lexemes_inlineFragment]
    simpa [condition, bracedLexemes, blockStrings_directives applied] using inductionHypothesis

theorem blockStrings_selections
    {selections : List Selection}
    (drawn : ∀ selection ∈ selections, selection.Drawn sound) :
    BlockStrings sound (Selection.bracedLexemes selections) := by
  simpa [Selection.bracedLexemes] using fun selection present =>
    Selection.blockStrings (drawn selection present)

theorem VariableDefinition.blockStrings
    {declared : VariableDefinition}
    (drawn : declared.Drawn sound) :
    BlockStrings sound declared.lexemes := by
  simp [lexemes, TypeRef.blockStrings, blockStrings_default drawn.default,
    blockStrings_directives drawn.directives]

/-! ## Type systems -/

theorem InputValue.blockStrings
    {input : InputValue}
    (drawn : input.Drawn sound) :
    BlockStrings sound input.lexemes := by
  simp [lexemes, TypeRef.blockStrings, blockStrings_description drawn.description,
    blockStrings_default drawn.default, blockStrings_directives drawn.directives]

theorem FieldDefinition.blockStrings
    {field : FieldDefinition}
    (drawn : field.Drawn sound) :
    BlockStrings sound field.lexemes := by
  simpa [lexemes, TypeRef.blockStrings, blockStrings_description drawn.description,
    blockStrings_directives drawn.directives] using fun parameter present =>
      InputValue.blockStrings (drawn.parameters parameter present)

theorem EnumValueDefinition.blockStrings
    {value : EnumValueDefinition}
    (drawn : value.Drawn sound) :
    BlockStrings sound value.lexemes := by
  simp [lexemes, blockStrings_description drawn.description,
    blockStrings_directives drawn.directives]

theorem TypeDefinition.blockStrings
    {definition : TypeDefinition}
    (drawn : definition.Drawn sound) :
    BlockStrings sound definition.lexemes := by
  obtain ⟨name, directives, body⟩ := definition
  obtain ⟨-, directed, drawn⟩ := drawn
  have applied : BlockStrings sound (directiveLexemes directives) :=
    blockStrings_directives directed
  cases body with
  | scalar => simpa [lexemes] using applied
  | object interfaces fields | interface interfaces fields =>
    simpa [lexemes, applied] using fun field present =>
      FieldDefinition.blockStrings (drawn.2 field present)
  | union members =>
    cases members <;> simpa [lexemes] using applied
  | enum values =>
    simpa [lexemes, applied] using fun value present =>
      EnumValueDefinition.blockStrings (drawn value present)
  | input fields =>
    simpa [lexemes, applied] using fun field present =>
      InputValue.blockStrings (drawn field present)

theorem DirectiveDefinition.blockStrings
    {definition : DirectiveDefinition}
    (drawn : definition.Drawn sound) :
    BlockStrings sound definition.lexemes := by
  have repeatable : BlockStrings sound
      (if definition.repeatable then [.name "repeatable"] else []) := by
    split <;> simp
  simpa [lexemes, repeatable] using fun parameter present =>
    InputValue.blockStrings (drawn.parameters parameter present)

/-! ## Documents -/

theorem Definition.blockStrings
    {definition : Definition}
    (drawn : definition.Drawn sound) :
    BlockStrings sound definition.lexemes := by
  cases definition with
  | operation kind name? declared directives selections =>
    obtain ⟨-, declarations, applied, -, selected⟩ := drawn
    have named : BlockStrings sound (name?.map .name).toList := by
      cases name? <;> simp
    simpa [lexemes, named, blockStrings_directives applied, blockStrings_selections selected]
      using fun variableDefinition present =>
        VariableDefinition.blockStrings (declarations variableDefinition present)
  | fragment name condition directives selections =>
    obtain ⟨-, -, applied, -, selected⟩ := drawn
    simp [lexemes, blockStrings_directives applied, blockStrings_selections selected]
  | schema description? directives roots =>
    obtain ⟨described, applied, -⟩ := drawn
    simp [lexemes, blockStrings_description described, blockStrings_directives applied,
      RootType.lexemes]
  | schemaExtension directives roots =>
    simp [lexemes, blockStrings_directives drawn.1, RootType.lexemes]
  | type description? definition =>
    simp [lexemes, blockStrings_description drawn.1, TypeDefinition.blockStrings drawn.2]
  | typeExtension extension => simpa [lexemes] using TypeDefinition.blockStrings drawn
  | directive description? definition =>
    simp [lexemes, blockStrings_description drawn.1, DirectiveDefinition.blockStrings drawn.2]

theorem Document.blockStrings
    {document : Document}
    (drawn : document.Drawn sound) :
    BlockStrings sound document.lexemes := by
  simpa [lexemes] using fun definition present =>
    Definition.blockStrings (drawn definition present)

/-! ## Steady block strings -/

/-- The lexeme does not change when it is printed and read back. -/
def Lexeme.isSteady : Lexeme → Bool
  | .blockString text => Text.Block.isSteady text.toList
  | _ => true

theorem Lexeme.isSteady_settled (lexeme : Lexeme) : lexeme.settled.isSteady = true := by
  cases lexeme with
  | blockString text => simp [settled, isSteady, Text.Block.isSteady_settle]
  | _ => rfl

theorem Lexeme.settled_of_isSteady
    {lexeme : Lexeme}
    (steady : lexeme.isSteady = true) :
    lexeme.settled = lexeme := by
  cases lexeme with
  | blockString text =>
    have steady : Text.Block.isSteady text.toList = true := steady
    simp [settled, Text.Block.settle, steady]
  | _ => rfl

/-- The block strings of the document are steady. -/
def Document.Steady (document : Document) : Prop :=
  ∀ lexeme ∈ document.lexemes, lexeme.isSteady = true

instance (document : Document) : Decidable document.Steady :=
  inferInstanceAs (Decidable (∀ lexeme ∈ document.lexemes, lexeme.isSteady = true))

theorem Document.steady_of_drawn
    {document : Document}
    (drawn : document.Drawn fun lexeme => lexeme.isSteady = true) :
    document.Steady := by
  intro lexeme present
  cases lexeme with
  | blockString text => exact Document.blockStrings drawn text present
  | _ => rfl

theorem Definition.printed_subset (definition : Definition) :
    definition.printed ⊆ definition.lexemes := by
  cases definition with
  | operation kind name? declared directives selections =>
    rw [printed, lexemes]
    split
    · intro lexeme present
      simp [present]
    · exact List.Subset.refl _
  | _ => exact List.Subset.refl _

/-- Steady block strings stay as they are. -/
theorem Document.Steady.map_settled
    {document : Document}
    (steady : document.Steady) :
    document.printed.map .settled = document.printed := by
  have same : ∀ lexeme ∈ document.printed, lexeme.settled = id lexeme := by
    intro lexeme present
    obtain ⟨definition, isDefinition, present⟩ := List.mem_flatMap.mp present
    exact Lexeme.settled_of_isSteady (steady lexeme (List.mem_flatMap.mpr
      ⟨definition, isDefinition, definition.printed_subset present⟩))
  rw [List.map_congr_left same, List.map_id]

end Source
end GraphQL
