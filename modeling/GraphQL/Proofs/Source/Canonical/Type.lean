import GraphQL.Proofs.Source.Canonical.TypeSystem

/-!
# Types and directives of a type system are told by their canonical texts

What stands behind the name of a type depends on its keyword: interfaces, directives, and
the fields, symbols or members that it holds.  With the keyword given, the text tells all
of it.
-/

namespace GraphQL
namespace Source
namespace Canonical

open Text Layout

variable {α : Type} {marks : List (List Char)}

/-- What may follow a definition: the blank line before the next one. -/
def definitionEnds : List (List Char) :=
  [['\n', '\n']]

/-! ## Names in a row -/

/-- The names are genuine. -/
def GoodNames (names : List String) : Prop :=
  ∀ name ∈ names, Lexeme.Genuine (.name name)

theorem toList_join_names
    {names : List String}
    (named : GoodNames names)
    (separator : String) :
    (join separator names).toList = listed separator.toList String.toList names := by
  have notEmpty (name : String) (present : name ∈ names) : chars id name ≠ [] :=
    (isWord_of_isName (named name present)).notEmpty
  have joined := toList_join_map notEmpty separator
  rwa [List.map_id] at joined

theorem toList_wrap_names
    {names : List String}
    (named : GoodNames names)
    (before separator : String) :
    (wrap before (join separator names) "").toList =
      opened before.toList (listed separator.toList String.toList) names := by
  rw [toList_wrap, toList_join_names named]
  cases names with
  | nil => rfl
  | cons name names =>
    have isWord := isWord_of_isName (named name List.mem_cons_self)
    simp [listed, opened, isWord.notEmpty]

theorem told_names
    {names : List String}
    {separator : List Char}
    (named : GoodNames names)
    (ends : endWords (separator :: marks) = true)
    (apart : isApart separator marks = true) :
    Told (listed separator String.toList) GoodNames marks names := by
  have endsMarks : endWords marks = true := by
    rw [endWords, List.all_cons, Bool.and_eq_true] at ends
    exact ends.2
  exact told_listed (fun name present => told_name ends (named name present)) named apart
    fun name isGenuine more => not_starts_word endsMarks (isWord_of_isName isGenuine) more

/-! ## What stands behind the name of a type -/

/-- Interfaces, directives and fields. -/
def compositeText : List String × List Directive × List FieldDefinition → List Char :=
  inTurn (opened " implements ".toList (listed " & ".toList String.toList)) <|
    inTurn (pieces [' ', '@'] directiveText) (blockText (chars FieldDefinition.print))

/-- Directives and members. -/
def unionText : List Directive × List String → List Char :=
  inTurn (pieces [' ', '@'] directiveText)
    (opened " = ".toList (listed " | ".toList String.toList))

/-- Directives and a block. -/
def holderText (write : α → List Char) : List Directive × List α → List Char :=
  inTurn (pieces [' ', '@'] directiveText) (blockText write)

/-- What stands behind the name of a type. -/
def bodyText : List Directive × TypeBody → List Char
  | (directives, .scalar) => pieces [' ', '@'] directiveText directives
  | (directives, .object interfaces fields) | (directives, .interface interfaces fields) =>
    compositeText (interfaces, directives, fields)
  | (directives, .union members) => unionText (directives, members)
  | (directives, .enum values) =>
    holderText (chars EnumValueDefinition.print) (directives, values)
  | (directives, .input fields) => holderText (chars InputValue.print) (directives, fields)

theorem notEmpty_field
    (field : FieldDefinition)
    (drawn : field.Drawn Lexeme.Genuine) :
    chars FieldDefinition.print field ≠ [] := by
  have isWord := isWord_of_isName drawn.name
  simp [chars_fieldDefinition drawn, describedText, fieldText, fieldParts, inTurn,
    isWord.notEmpty]

theorem notEmpty_symbol
    (value : EnumValueDefinition)
    (drawn : value.Drawn Lexeme.Genuine) :
    chars EnumValueDefinition.print value ≠ [] := by
  have isWord := isWord_of_isName drawn.name
  simp [chars_enumValueDefinition drawn, describedText, symbolText, symbolParts, inTurn,
    isWord.notEmpty]

theorem notEmpty_input
    (input : InputValue)
    (drawn : input.Drawn Lexeme.Genuine) :
    chars InputValue.print input ≠ [] := by
  obtain ⟨c, cs, written, -⟩ := opensValue_input input drawn
  simp [written]

/-- The fields are drawn from genuine lexemes. -/
def GoodFields (fields : List FieldDefinition) : Prop :=
  ∀ field ∈ fields, field.Drawn Lexeme.Genuine

/-- What may stand behind the name of a type. -/
def bodyOpens : List (List Char) :=
  [[' '], ['\n', '\n']]

/-- What may stand behind the name of a type that holds members in a block. -/
def holderOpens : List (List Char) :=
  [' ', '@'] :: [' ', '\x7b', '\n', ' ', ' '] :: definitionEnds

theorem follows_holder
    {write : α → List Char}
    {good : α → Prop}
    {directives : List Directive}
    {values : List α}
    (applied : GoodDirectives directives)
    (told : ∀ value ∈ values, Told write good [['\n']] value)
    (areGood : ∀ value ∈ values, good value)
    (notEmpty : ∀ value, good value → write value ≠ []) :
    Follows holderOpens (holderText write)
      (Both GoodDirectives fun values => ∀ value ∈ values, good value) definitionEnds
      (directives, values) :=
  (follows_directives rfl applied).inTurn (follows_block told areGood notEmpty rfl)

theorem follows_composite
    {interfaces : List String}
    {directives : List Directive}
    {fields : List FieldDefinition}
    (named : GoodNames interfaces)
    (applied : GoodDirectives directives)
    (drawn : GoodFields fields) :
    Follows bodyOpens compositeText (Both GoodNames (Both GoodDirectives GoodFields))
      definitionEnds (interfaces, directives, fields) := by
  have toldNames : Told (listed " & ".toList String.toList) GoodNames holderOpens interfaces :=
    told_names named rfl rfl
  have followsNames := (follows_opened " implements ".toList toldNames named rfl).mono
    (show covers bodyOpens _ = true from rfl)
  exact followsNames.inTurn (follows_holder applied
    (fun field present => told_fieldDefinition (drawn field present)) drawn notEmpty_field)

theorem follows_union
    {directives : List Directive}
    {members : List String}
    (applied : GoodDirectives directives)
    (named : GoodNames members) :
    Follows bodyOpens unionText (Both GoodDirectives GoodNames) definitionEnds
      (directives, members) := by
  have toldNames : Told (listed " | ".toList String.toList) GoodNames definitionEnds members :=
    told_names named rfl rfl
  have followsNames := follows_opened " = ".toList toldNames named rfl
  exact ((follows_directives rfl applied).inTurn followsNames).mono rfl

/-- The directives and what the type holds are drawn from genuine lexemes, and the keyword
is given. -/
structure GoodBody (keyword : String) (rest : List Directive × TypeBody) : Prop where
  /-- The directives are drawn from genuine lexemes. -/
  applied : GoodDirectives rest.1
  /-- What the type holds is drawn from genuine lexemes. -/
  drawn : rest.2.Drawn Lexeme.Genuine
  /-- The keyword is the given one. -/
  keyword : rest.2.keyword = keyword

theorem follows_enum
    {directives : List Directive}
    {values : List EnumValueDefinition}
    (applied : GoodDirectives directives)
    (drawn : ∀ value ∈ values, value.Drawn Lexeme.Genuine) :
    Follows holderOpens (holderText (chars EnumValueDefinition.print))
      (Both GoodDirectives fun values => ∀ value ∈ values, value.Drawn Lexeme.Genuine)
      definitionEnds (directives, values) :=
  follows_holder applied (fun value present => told_enumValueDefinition (drawn value present))
    drawn notEmpty_symbol

theorem follows_input
    {directives : List Directive}
    {fields : List InputValue}
    (applied : GoodDirectives directives)
    (drawn : ∀ field ∈ fields, field.Drawn Lexeme.Genuine) :
    Follows holderOpens (holderText (chars InputValue.print))
      (Both GoodDirectives fun fields => ∀ field ∈ fields, field.Drawn Lexeme.Genuine)
      definitionEnds (directives, fields) :=
  follows_holder applied (fun field present => told_inputValue rfl rfl (drawn field present))
    drawn notEmpty_input

theorem leads_bodyText (keyword : String) :
    Leads bodyOpens bodyText (GoodBody keyword) definitionEnds := by
  rintro ⟨directives, body⟩ rest ⟨applied, drawn, -⟩ starts
  cases body with
  | scalar => exact ((follows_directives rfl applied).starts starts).mono rfl
  | object | interface => exact (follows_composite drawn.1 applied drawn.2).starts starts
  | union => exact (follows_union applied drawn).starts starts
  | enum => exact ((follows_enum applied drawn).starts starts).mono rfl
  | input => exact ((follows_input applied drawn).starts starts).mono rfl

/-- What stands behind the name of a type is told by its text, given the keyword. -/
theorem told_bodyText
    {rest : List Directive × TypeBody}
    {keyword : String}
    (isGood : GoodBody keyword rest) :
    Told bodyText (GoodBody keyword) definitionEnds rest := by
  obtain ⟨directives, body⟩ := rest
  rintro ⟨otherDirectives, other⟩ rest left isGoodToo starts startsLeft same
  obtain ⟨applied, drawn, rfl⟩ := isGood
  obtain ⟨appliedToo, drawnToo, sameKeyword⟩ := isGoodToo
  cases body
  all_goals
    cases other
    all_goals simp [TypeBody.keyword] at sameKeyword
  case scalar.scalar =>
    exact (follows_directives rfl applied).told.made
      (fun directives => (directives, TypeBody.scalar)) appliedToo starts startsLeft same
  case object.object =>
    exact (follows_composite drawn.1 applied drawn.2).told.made
      (fun parts => (parts.2.1, TypeBody.object parts.1 parts.2.2))
      (follows_composite drawnToo.1 appliedToo drawnToo.2).isGood starts startsLeft same
  case interface.interface =>
    exact (follows_composite drawn.1 applied drawn.2).told.made
      (fun parts => (parts.2.1, TypeBody.interface parts.1 parts.2.2))
      (follows_composite drawnToo.1 appliedToo drawnToo.2).isGood starts startsLeft same
  case union.union =>
    exact (follows_union applied drawn).told.made
      (fun parts => (parts.1, TypeBody.union parts.2))
      (follows_union appliedToo drawnToo).isGood starts startsLeft same
  case enum.enum =>
    exact (follows_enum applied drawn).told.made
      (fun parts => (parts.1, TypeBody.enum parts.2))
      (follows_enum appliedToo drawnToo).isGood starts startsLeft same
  case input.input =>
    exact (follows_input applied drawn).told.made
      (fun parts => (parts.1, TypeBody.input parts.2))
      (follows_input appliedToo drawnToo).isGood starts startsLeft same

/-! ## Types -/

/-- The parts of a named type. -/
def namedParts (definition : TypeDefinition) : String × List Directive × TypeBody :=
  (definition.name, definition.directives, definition.body)

theorem namedParts_injective : Function.Injective namedParts := by
  rintro ⟨_, _, _⟩ ⟨_, _, _⟩ ⟨⟩
  rfl

/-- A named type behind its keyword. -/
def namedText (definition : TypeDefinition) : List Char :=
  [' '] ++ inTurn String.toList bodyText (namedParts definition)

theorem toList_wrap_interfaces
    {interfaces : List String}
    (named : GoodNames interfaces) :
    (wrap " " (TypeDefinition.printInterfaces interfaces) "").toList =
      opened " implements ".toList (listed " & ".toList String.toList) interfaces := by
  rw [TypeDefinition.printInterfaces, toList_wrap_wrap, toList_wrap_names named]
  rfl

theorem toList_wrap_members
    {members : List String}
    (named : GoodNames members) :
    (wrap " " (if members.isEmpty then "" else "= " ++ join " | " members) "").toList =
      opened " = ".toList (listed " | ".toList String.toList) members := by
  have joined := toList_join_names named " | "
  cases members with
  | nil => rfl
  | cons member members => simp [toList_wrap, joined, opened]

/-- A named type is its introduction, its name and what stands behind the name. -/
theorem toList_printAfter
    {introduction : String}
    {definition : TypeDefinition}
    (notEmpty : introduction.toList ≠ [])
    (drawn : definition.Drawn Lexeme.Genuine) :
    (definition.printAfter introduction).toList =
      introduction.toList ++ namedText definition := by
  obtain ⟨name, directives, body⟩ := definition
  obtain ⟨named, -, drawn⟩ := drawn
  have inName : (wrap " " name "").toList = ' ' :: name.toList := by
    have isWord : IsWord name.toList := isWord_of_isName named
    simp [toList_wrap, isWord.notEmpty]
  rw [TypeDefinition.printAfter.eq_def, toList_join_cons notEmpty, List.flatMap_cons, inName]
  cases body with
  | scalar => simp [namedText, namedParts, bodyText, inTurn, toList_wrap_directives]
  | object interfaces fields | interface interfaces fields =>
    have inBlock := toList_wrap_block_of fun field present =>
      notEmpty_field field (drawn.2 field present)
    simp [namedText, namedParts, bodyText, inTurn, compositeText, toList_wrap_directives,
      toList_wrap_interfaces drawn.1, inBlock]
  | union members =>
    simp only [List.flatMap_cons, List.flatMap_nil, toList_wrap_directives,
      toList_wrap_members drawn]
    simp [namedText, namedParts, bodyText, inTurn, unionText]
  | enum values =>
    have inBlock := toList_wrap_block_of fun value present =>
      notEmpty_symbol value (drawn value present)
    simp [namedText, namedParts, bodyText, inTurn, holderText, toList_wrap_directives, inBlock]
  | input fields =>
    have inBlock := toList_wrap_block_of fun field present =>
      notEmpty_input field (drawn field present)
    simp [namedText, namedParts, bodyText, inTurn, holderText, toList_wrap_directives, inBlock]

/-- The type is drawn from genuine lexemes, and its keyword is given. -/
structure GoodType (keyword : String) (definition : TypeDefinition) : Prop where
  /-- The type is drawn from genuine lexemes. -/
  drawn : definition.Drawn Lexeme.Genuine
  /-- The keyword is the given one. -/
  keyword : definition.body.keyword = keyword

/-- A named type is told by what stands behind its keyword, given the keyword. -/
theorem told_namedText
    {definition : TypeDefinition}
    {keyword : String}
    (isGood : GoodType keyword definition) :
    Told namedText (GoodType keyword) definitionEnds definition := by
  have goodBody (definition : TypeDefinition) (isGood : GoodType keyword definition) :
      GoodBody keyword (definition.directives, definition.body) :=
    ⟨isGood.drawn.directives, isGood.drawn.body, isGood.keyword⟩
  have follows : Follows bodyOpens bodyText _ definitionEnds
      (definition.directives, definition.body) :=
    ⟨told_bodyText (goodBody definition isGood), goodBody definition isGood,
      leads_bodyText keyword⟩
  exact (((told_name rfl isGood.drawn.name).inTurn follows).marked [' ']).of_parts isGood
    namedParts_injective (fun _ _ => rfl)
    (fun other isGoodToo => ⟨isGoodToo.drawn.name, goodBody other isGoodToo⟩)

/-! ## Directives of a type system -/

/-- The parts of a directive's definition. -/
def locatedParts (directive : DirectiveDefinition) :
    String × (Bool × List InputValue) × Bool × List String :=
  (directive.name, parameterRow directive.parameters, directive.repeatable, directive.locations)

theorem locatedParts_injective : Function.Injective locatedParts := by
  rintro ⟨_, _, _, _⟩ ⟨_, _, _, _⟩ same
  simp only [locatedParts, parameterRow, Prod.mk.injEq] at same
  obtain ⟨rfl, ⟨-, rfl⟩, rfl, rfl⟩ := same
  rfl

/-- A name, parameters, perhaps a word, and locations. -/
def locatedRest : String × (Bool × List InputValue) × Bool × List String → List Char :=
  inTurn String.toList <| inTurn (inBrackets (chars InputValue.print)) <|
    inTurn (flag " repeatable".toList) fun locations =>
      " on ".toList ++ listed " | ".toList String.toList locations

/-- A directive's definition behind its keyword. -/
def locatedText (directive : DirectiveDefinition) : List Char :=
  " @".toList ++ locatedRest (locatedParts directive)

theorem toList_directiveDefinition
    {directive : DirectiveDefinition}
    (drawn : directive.Drawn Lexeme.Genuine) :
    directive.print.toList = "directive".toList ++ locatedText directive := by
  have joined := toList_join_names drawn.locations " | "
  have repeated : (if directive.repeatable then " repeatable" else "").toList =
      flag " repeatable".toList directive.repeatable := by
    rw [flag, apply_ite String.toList]
    rfl
  unfold DirectiveDefinition.print
  simp only [String.toList_append, toList_printParameters drawn.parameters, repeated, joined]
  simp [locatedText, locatedRest, locatedParts, inTurn]

/-- A directive's definition is told by what stands behind its keyword. -/
theorem told_locatedText
    {directive : DirectiveDefinition}
    (drawn : directive.Drawn Lexeme.Genuine) :
    Told locatedText (DirectiveDefinition.Drawn Lexeme.Genuine) definitionEnds directive := by
  have isRow := isRow_parameters drawn.parameters
  have toldLocations : Told (listed " | ".toList String.toList) GoodNames definitionEnds
      directive.locations :=
    told_names drawn.locations rfl rfl
  have followsLocations := follows_marked " on ".toList toldLocations drawn.locations
  have told : Told locatedRest _ definitionEnds (locatedParts directive) :=
    (told_name rfl drawn.name).inTurn ((follows_parameters isRow rfl).inTurn
      ((follows_flag " repeatable".toList rfl directive.repeatable).inTurn followsLocations))
  exact (told.marked " @".toList).of_parts drawn locatedParts_injective
    (fun _ _ => rfl)
    (fun _ drawn => ⟨drawn.name, isRow_parameters drawn.parameters, trivial, drawn.locations⟩)

end Canonical
end Source
end GraphQL
