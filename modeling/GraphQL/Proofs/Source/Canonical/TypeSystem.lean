import GraphQL.Proofs.Source.Canonical.Selection

/-!
# Parts of type systems are told by their canonical texts

Variables and parameters are declared alike: a name, a type, and perhaps a default value
and directives.  A description stands on lines of its own before what it describes, and
what a type holds stands behind its name in an order that its keyword fixes.
-/

namespace GraphQL
namespace Source
namespace Canonical

open Text Layout

variable {α : Type} {marks : List (List Char)}

/-! ## Declarations -/

/-- A type behind a name. -/
def typeText (type : TypeRef) : List Char :=
  [':', ' '] ++ chars TypeRef.print type

/-- A name, its type, and perhaps a default value and directives. -/
def declarationText : String × TypeRef × Option Value × List Directive → List Char :=
  inTurn String.toList <| inTurn typeText <|
    inTurn (piece [' ', '=', ' '] (chars Value.print)) (pieces [' ', '@'] directiveText)

/-- The parts of a declaration are drawn from genuine lexemes. -/
def GoodDeclaration : String × TypeRef × Option Value × List Directive → Prop :=
  Both (fun name => Lexeme.Genuine (.name name)) <| Both (TypeRef.Drawn Lexeme.Genuine) <|
    Both (fun default? => ∀ value ∈ default?, value.Drawn Lexeme.Genuine) GoodDirectives

theorem told_declaration
    {declaration : String × TypeRef × Option Value × List Directive}
    (settled : settles marks = true)
    (apart : isApart [' ', '=', ' '] marks = true)
    (isGood : GoodDeclaration declaration) :
    Told declarationText GoodDeclaration marks declaration := by
  obtain ⟨named, typed, given, applied⟩ := isGood
  have ends : endWords ([' ', '@'] :: marks) = true :=
    endWords_cons rfl (endWords_of_settles settled)
  have unmarked : isApart ['!'] ([' ', '=', ' '] :: [' ', '@'] :: marks) = true := by
    simp only [settles, Bool.and_eq_true] at settled
    exact isApart_cons rfl (isApart_cons rfl settled.1.1.2)
  have toldType := told_type (endWords_cons rfl ends) unmarked typed
  have follows := (follows_marked [':', ' '] toldType typed).inTurn
    ((follows_piece [' ', '=', ' '] (fun value present => told_value ends (given value present))
      given (isApart_cons rfl apart)).inTurn (follows_directives settled applied))
  exact (told_name rfl named).inTurn follows

/-! ## Variables -/

/-- The parts of a variable's definition. -/
def variableParts (definition : VariableDefinition) :
    String × TypeRef × Option Value × List Directive :=
  (definition.name, definition.type, definition.default?, definition.directives)

theorem variableParts_injective : Function.Injective variableParts := by
  rintro ⟨_, _, _, _⟩ ⟨_, _, _, _⟩ ⟨⟩
  rfl

theorem toList_wrap_default
    {default? : Option Value}
    (given : ∀ value ∈ default?, value.Drawn Lexeme.Genuine) :
    (wrap " = " ((default?.map Value.print).getD "") "").toList =
      piece [' ', '=', ' '] (chars Value.print) default? :=
  toList_wrap_getD (fun value present => chars_value_ne_nil (given value present)) " = "

theorem chars_variableDefinition
    {definition : VariableDefinition}
    (drawn : definition.Drawn Lexeme.Genuine) :
    chars VariableDefinition.print definition =
      ['$'] ++ declarationText (variableParts definition) := by
  rw [chars, VariableDefinition.print, String.toList_append, String.toList_append,
    toList_wrap_default drawn.default, toList_wrap_directives]
  simp [declarationText, variableParts, inTurn, typeText, chars]

theorem told_variableDefinition
    {definition : VariableDefinition}
    (drawn : definition.Drawn Lexeme.Genuine) :
    Told (chars VariableDefinition.print) (VariableDefinition.Drawn Lexeme.Genuine)
      [[',', ' '], [')']] definition := by
  have isGood (definition : VariableDefinition) (drawn : definition.Drawn Lexeme.Genuine) :
      GoodDeclaration (variableParts definition) :=
    ⟨drawn.name, drawn.type, drawn.default, drawn.directives⟩
  exact ((told_declaration rfl rfl (isGood definition drawn)).marked ['$']).of_parts drawn
    variableParts_injective (fun _ => chars_variableDefinition) isGood

/-! ## Descriptions -/

/-- The string that a description is. -/
def descriptionLexeme (description : Description) : Lexeme :=
  if description.block then .blockString description.text else .string description.text

/-- A description on lines of its own. -/
def descriptionText (description : Description) : List Char :=
  leafText (descriptionLexeme description) ++ ['\n']

theorem descriptionLexeme_injective : Function.Injective descriptionLexeme := by
  rintro ⟨text, block⟩ ⟨otherText, otherBlock⟩ same
  cases block
  all_goals
    cases otherBlock
    all_goals cases same
  all_goals rfl

theorem isLeaf_description
    {description : Description}
    (drawn : description.Drawn Lexeme.Genuine) :
    IsLeaf (descriptionLexeme description) := by
  refine ⟨drawn, ?_⟩
  rw [descriptionLexeme]
  split <;> rfl

theorem told_description
    {description : Description}
    (drawn : description.Drawn Lexeme.Genuine)
    (marks : List (List Char)) :
    Told descriptionText (Description.Drawn Lexeme.Genuine) marks description := by
  have told : Told leafText IsLeaf [['\n']] (descriptionLexeme description) :=
    told_leaf rfl (isLeaf_description drawn)
  exact (told.closed marks).of_parts drawn descriptionLexeme_injective (fun _ _ => rfl)
    (fun _ => isLeaf_description)

/-- What is described, behind its description. -/
def describedText (write : α → List Char) (described : Option Description × α) : List Char :=
  (Description.printBefore described.1).toList ++ write described.2

theorem toList_printBefore (description : Description) :
    (Description.printBefore (some description)).toList = descriptionText description := by
  obtain ⟨text, block⟩ := description
  cases block
  all_goals
    rw [Description.printBefore, String.toList_append]
    rfl

/-- The description, if there is one, is drawn from genuine lexemes. -/
def GoodDescription (description? : Option Description) : Prop :=
  ∀ description ∈ description?, description.Drawn Lexeme.Genuine

/-- A description opens with a quote. -/
theorem exists_descriptionText (description : Description) :
    ∃ more, descriptionText description = '"' :: more := by
  obtain ⟨text, block⟩ := description
  cases block
  case false =>
    obtain ⟨more, opens⟩ := (exists_leafText_eq_quote text).1
    exact ⟨more ++ ['\n'], congrArg (· ++ ['\n']) opens⟩
  case true =>
    obtain ⟨more, opens⟩ := (exists_leafText_eq_quote text).2
    exact ⟨more ++ ['\n'], congrArg (· ++ ['\n']) opens⟩

/-- What is described is told, and so is its description, if it does not open as one. -/
theorem told_described
    {write : α → List Char}
    {good : α → Prop}
    {described : Option Description × α}
    (drawn : GoodDescription described.1)
    (isGood : good described.2)
    (told : Told write good marks described.2)
    (plain : ∀ value, good value → ∀ rest more, write value ++ rest ≠ '"' :: more) :
    Told (describedText write) (Both GoodDescription good) marks described := by
  obtain ⟨description?, value⟩ := described
  rintro ⟨otherDescription?, other⟩ rest left ⟨drawnToo, isGoodToo⟩ starts startsLeft same
  cases description? with
  | none =>
    cases otherDescription? with
    | none =>
      obtain ⟨sameValue, sameRest⟩ := told isGoodToo starts startsLeft same
      exact ⟨Prod.ext rfl sameValue, sameRest⟩
    | some description =>
      obtain ⟨more, opens⟩ := exists_descriptionText description
      rw [describedText, describedText, toList_printBefore, opens] at same
      exact absurd same (plain value isGood _ _)
  | some description =>
    cases otherDescription? with
    | none =>
      obtain ⟨more, opens⟩ := exists_descriptionText description
      rw [describedText, describedText, toList_printBefore, opens] at same
      exact absurd same.symm (plain other isGoodToo _ _)
    | some otherDescription =>
      rw [describedText, describedText, toList_printBefore, toList_printBefore,
        List.append_assoc, List.append_assoc] at same
      have anywhere (rest : List Char) : Starts [[]] rest := starts_append List.mem_cons_self rest
      obtain ⟨rfl, same⟩ := told_description (drawn description rfl) [[]]
        (drawnToo otherDescription rfl) (anywhere _) (anywhere _) same
      obtain ⟨sameValue, sameRest⟩ := told isGoodToo starts startsLeft same
      exact ⟨Prod.ext rfl sameValue, sameRest⟩

/-- What opens with a name does not open with a quote. -/
theorem inTurn_ne_quote
    {write : α → List Char}
    {good : α → Prop}
    (named : String × α)
    (isGood : Both (fun name => Lexeme.Genuine (.name name)) good named)
    (rest more : List Char) :
    inTurn String.toList write named ++ rest ≠ '"' :: more := by
  rw [inTurn, List.append_assoc]
  exact (isWord_of_isName isGood.1).append_ne_quote _ more

/-! ## Parameters -/

/-- The parts of a parameter. -/
def inputParts (input : InputValue) :
    Option Description × String × TypeRef × Option Value × List Directive :=
  (input.description?, input.name, input.type, input.default?, input.directives)

theorem inputParts_injective : Function.Injective inputParts := by
  rintro ⟨_, _, _, _, _⟩ ⟨_, _, _, _, _⟩ ⟨⟩
  rfl

theorem chars_inputValue
    {input : InputValue}
    (drawn : input.Drawn Lexeme.Genuine) :
    chars InputValue.print input = describedText declarationText (inputParts input) := by
  have notEmpty : (input.name ++ ": " ++ input.type.print).toList ≠ [] := by simp
  have given := toList_wrap_default drawn.default
  rw [chars, InputValue.print, String.toList_append, toList_join_cons notEmpty]
  simp only [List.flatMap_cons, List.flatMap_nil, toList_wrap_wrap, toList_wrap_directives]
  rw [show " " ++ "= " = " = " from rfl, given]
  simp [describedText, declarationText, inputParts, inTurn, typeText, chars]

theorem goodInput
    {input : InputValue}
    (drawn : input.Drawn Lexeme.Genuine) :
    Both GoodDescription GoodDeclaration (inputParts input) :=
  ⟨drawn.description, drawn.name, drawn.type, drawn.default, drawn.directives⟩

theorem told_inputValue
    {input : InputValue}
    (settled : settles marks = true)
    (apart : isApart [' ', '=', ' '] marks = true)
    (drawn : input.Drawn Lexeme.Genuine) :
    Told (chars InputValue.print) (InputValue.Drawn Lexeme.Genuine) marks input := by
  obtain ⟨described, declared⟩ := goodInput drawn
  exact (told_described described declared (told_declaration settled apart declared)
    inTurn_ne_quote).of_parts drawn inputParts_injective (fun _ => chars_inputValue)
    (fun _ => goodInput)

theorem opensValue_input (input : InputValue) (drawn : input.Drawn Lexeme.Genuine) :
    ∃ c cs, chars InputValue.print input = c :: cs ∧ opensValue c = true := by
  rw [chars_inputValue drawn, describedText, inputParts]
  cases input.description? with
  | none => exact opensValue_append (opensValue_name drawn.name) _
  | some description =>
    obtain ⟨more, opens⟩ := exists_descriptionText description
    rw [toList_printBefore, opens]
    exact ⟨'"', _, rfl, rfl⟩

/-- Parameters, which stand on lines of their own if one of them needs several. -/
def parameterRow (parameters : List InputValue) : Bool × List InputValue :=
  ((parameters.map InputValue.print).any isMultiline, parameters)

theorem isRow_parameters
    {parameters : List InputValue}
    (drawn : ∀ parameter ∈ parameters, parameter.Drawn Lexeme.Genuine) :
    IsRow (InputValue.Drawn Lexeme.Genuine) (parameterRow parameters) := by
  refine ⟨drawn, fun isEmpty => ?_⟩
  have isEmpty : parameters = [] := isEmpty
  rw [parameterRow, isEmpty]
  rfl

theorem toList_printParameters
    {parameters : List InputValue}
    (drawn : ∀ parameter ∈ parameters, parameter.Drawn Lexeme.Genuine) :
    (InputValue.printParameters parameters).toList =
      inBrackets (chars InputValue.print) (parameterRow parameters) := by
  have notEmpty (parameter : InputValue) (present : parameter ∈ parameters) :
      chars InputValue.print parameter ≠ [] := by
    obtain ⟨c, cs, written, -⟩ := opensValue_input parameter (drawn parameter present)
    simp [written]
  rw [InputValue.printParameters, parameterRow]
  split
  case isTrue multiline => rw [toList_inParensByLine_eq notEmpty, multiline]
  case isFalse inLine =>
    rw [toList_inParens_eq notEmpty, Bool.eq_false_iff.mpr inLine]

theorem follows_parameters
    {row : Bool × List InputValue}
    (isRow : IsRow (InputValue.Drawn Lexeme.Genuine) row)
    (apart : isApart ['('] marks = true) :
    Follows (['('] :: marks) (inBrackets (chars InputValue.print))
      (IsRow (InputValue.Drawn Lexeme.Genuine)) marks row :=
  follows_inBrackets (fun input present => told_inputValue rfl rfl (isRow.areGood input present))
    (fun input present => told_inputValue rfl rfl (isRow.areGood input present)) isRow
    opensValue_input apart

/-! ## Members of types -/

/-- The parts of a field of a type. -/
def fieldParts (field : FieldDefinition) :
    Option Description × String × (Bool × List InputValue) × TypeRef × List Directive :=
  (field.description?, field.name, parameterRow field.parameters, field.type, field.directives)

theorem fieldParts_injective : Function.Injective fieldParts := by
  rintro ⟨_, _, _, _, _⟩ ⟨_, _, _, _, _⟩ same
  simp only [fieldParts, parameterRow, Prod.mk.injEq] at same
  obtain ⟨rfl, rfl, ⟨-, rfl⟩, rfl, rfl⟩ := same
  rfl

/-- A name, parameters, a type and directives. -/
def fieldText : String × (Bool × List InputValue) × TypeRef × List Directive → List Char :=
  inTurn String.toList <| inTurn (inBrackets (chars InputValue.print)) <|
    inTurn typeText (pieces [' ', '@'] directiveText)

/-- The parts of a field are drawn from genuine lexemes. -/
def GoodField : String × (Bool × List InputValue) × TypeRef × List Directive → Prop :=
  Both (fun name => Lexeme.Genuine (.name name)) <|
    Both (IsRow (InputValue.Drawn Lexeme.Genuine)) <|
      Both (TypeRef.Drawn Lexeme.Genuine) GoodDirectives

theorem chars_fieldDefinition
    {field : FieldDefinition}
    (drawn : field.Drawn Lexeme.Genuine) :
    chars FieldDefinition.print field = describedText fieldText (fieldParts field) := by
  rw [chars, FieldDefinition.print]
  simp only [String.toList_append, toList_printParameters drawn.parameters,
    toList_wrap_directives]
  simp [describedText, fieldText, fieldParts, inTurn, typeText, chars]

theorem told_fieldDefinition
    {field : FieldDefinition}
    (drawn : field.Drawn Lexeme.Genuine) :
    Told (chars FieldDefinition.print) (FieldDefinition.Drawn Lexeme.Genuine) [['\n']] field := by
  have areGood (field : FieldDefinition) (drawn : field.Drawn Lexeme.Genuine) :
      Both GoodDescription GoodField (fieldParts field) :=
    ⟨drawn.description, drawn.name, isRow_parameters drawn.parameters, drawn.type,
      drawn.directives⟩
  have isRow := isRow_parameters drawn.parameters
  have toldType : Told (chars TypeRef.print) _ [[' ', '@'], ['\n']] field.type :=
    told_type rfl rfl drawn.type
  have told : Told fieldText GoodField [['\n']] (fieldParts field).2 :=
    (told_name rfl drawn.name).inTurn ((follows_parameters isRow rfl).inTurn
      ((follows_marked [':', ' '] toldType drawn.type).inTurn
        (follows_directives rfl drawn.directives)))
  obtain ⟨described, isGood⟩ := areGood field drawn
  exact (told_described described isGood told inTurn_ne_quote).of_parts drawn
    fieldParts_injective (fun _ => chars_fieldDefinition) areGood

/-- The parts of a value of an enum type. -/
def symbolParts (value : EnumValueDefinition) :
    Option Description × String × List Directive :=
  (value.description?, value.name, value.directives)

theorem symbolParts_injective : Function.Injective symbolParts := by
  rintro ⟨_, _, _⟩ ⟨_, _, _⟩ ⟨⟩
  rfl

/-- A name and directives. -/
def symbolText : String × List Directive → List Char :=
  inTurn String.toList (pieces [' ', '@'] directiveText)

theorem chars_enumValueDefinition
    {value : EnumValueDefinition}
    (drawn : value.Drawn Lexeme.Genuine) :
    chars EnumValueDefinition.print value = describedText symbolText (symbolParts value) := by
  have notEmpty : value.name.toList ≠ [] := (isWord_of_isName drawn.name).notEmpty
  rw [chars, EnumValueDefinition.print, String.toList_append, toList_join_cons notEmpty]
  simp only [List.flatMap_cons, List.flatMap_nil, toList_wrap_directives, List.append_nil]
  rfl

theorem told_enumValueDefinition
    {value : EnumValueDefinition}
    (drawn : value.Drawn Lexeme.Genuine) :
    Told (chars EnumValueDefinition.print) (EnumValueDefinition.Drawn Lexeme.Genuine) [['\n']]
      value := by
  have areGood (value : EnumValueDefinition) (drawn : value.Drawn Lexeme.Genuine) :
      Both GoodDescription (Both (fun name => Lexeme.Genuine (.name name)) GoodDirectives)
        (symbolParts value) :=
    ⟨drawn.description, drawn.name, drawn.directives⟩
  have told : Told symbolText _ [['\n']] (symbolParts value).2 :=
    (told_name rfl drawn.name).inTurn (follows_directives rfl drawn.directives)
  obtain ⟨described, isGood⟩ := areGood value drawn
  exact (told_described described isGood told inTurn_ne_quote).of_parts drawn
    symbolParts_injective (fun _ => chars_enumValueDefinition) areGood

/-- The parts of a root type. -/
def rootParts (root : RootType) : OperationKind × String :=
  (root.kind, root.type)

theorem rootParts_injective : Function.Injective rootParts := by
  rintro ⟨_, _⟩ ⟨_, _⟩ ⟨⟩
  rfl

/-- The keyword of a kind of operation. -/
def kindText (kind : OperationKind) : List Char :=
  kind.text.toList

theorem kindText_injective
    {kind other : OperationKind}
    (same : kind.text = other.text) :
    kind = other := by
  cases kind
  all_goals
    cases other
    all_goals first | rfl | exact absurd same (by decide)

theorem isWord_kindText (kind : OperationKind) : IsWord kind.text.toList := by
  cases kind
  all_goals exact isWord_of_isName (by decide)

theorem told_kind
    (ends : endWords marks = true)
    (kind : OperationKind) :
    Told kindText (fun _ => True) marks kind := by
  intro other rest left _ starts startsLeft same
  obtain ⟨sameText, sameRest⟩ :=
    told_word ends (isWord_kindText kind) (isWord_kindText other) starts startsLeft same
  exact ⟨kindText_injective sameText, sameRest⟩

theorem told_rootType
    {root : RootType}
    (drawn : root.Drawn Lexeme.Genuine) :
    Told (chars RootType.print) (RootType.Drawn Lexeme.Genuine) [['\n']] root := by
  have told : Told String.toList _ [['\n']] root.type := told_name rfl drawn
  refine ((told_kind rfl root.kind).inTurn (follows_marked [':', ' '] told drawn)).of_parts drawn
    rootParts_injective (fun other _ => ?_) (fun _ drawn => ⟨trivial, drawn⟩)
  simp [chars, RootType.print, rootParts, inTurn, kindText]

/-! ## Blocks -/

/-- Items in braces behind a space, each on lines of its own, unless there are none. -/
def blockText (write : α → List Char) : List α → List Char :=
  opened [' ', '\x7b', '\n', ' ', ' '] (indentedTo '\x7d' (listed ['\n'] write))

theorem toList_wrap_block_of
    {print : α → String}
    {values : List α}
    (notEmpty : ∀ value ∈ values, chars print value ≠ []) :
    (wrap " " (block (values.map print)) "").toList = blockText (chars print) values :=
  toList_wrap_block notEmpty

theorem follows_block
    {write : α → List Char}
    {good : α → Prop}
    {values : List α}
    (told : ∀ value ∈ values, Told write good [['\n']] value)
    (areGood : ∀ value ∈ values, good value)
    (notEmpty : ∀ value, good value → write value ≠ [])
    (apart : isApart [' ', '\x7b', '\n', ' ', ' '] marks = true) :
    Follows ([' ', '\x7b', '\n', ' ', ' '] :: marks) (blockText write)
      (fun values => ∀ value ∈ values, good value) marks values :=
  follows_opened _ (told_lines (by decide) told areGood notEmpty marks) areGood apart

end Canonical
end Source
end GraphQL
