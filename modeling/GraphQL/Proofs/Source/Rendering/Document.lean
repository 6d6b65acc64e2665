import GraphQL.Proofs.Source.Canonical.Operation
import GraphQL.Proofs.Source.Drawn
import GraphQL.Proofs.Source.Rendering.Leaf

/-!
# Reading canonical text

Canonical text is read as the lexemes of what it is printed from, part by part: whatever is
drawn from legible lexemes is read as its own lexemes, with block strings settled.  Only the
keyword of a query that has nothing before its selections is missing.
-/

namespace GraphQL
namespace Source

open Layout Text

/-! ## Words and leaves -/

namespace Lexeme.Legible

variable {text : String}

theorem renders_name
    (legible : Legible (.name text)) :
    Renders text [.name text] := by
  simpa [Canonical.leafText] using legible rfl

theorem renders_int
    (legible : Legible (.int text)) :
    Renders text [.int text] := by
  simpa [Canonical.leafText] using legible rfl

theorem renders_float
    (legible : Legible (.float text)) :
    Renders text [.float text] := by
  simpa [Canonical.leafText] using legible rfl

theorem renders_string
    (legible : Legible (.string text)) :
    Renders (stringText text false) [.string text] := by
  simpa [Canonical.leafText] using legible rfl

theorem renders_blockString
    (legible : Legible (.blockString text)) :
    Renders (stringText text true) [.blockString text] := by
  simpa [Canonical.leafText] using legible rfl

end Lexeme.Legible

/-- A word of the grammar is read as a name. -/
theorem renders_word
    {word : String}
    (isName : Name.IsName word) :
    Renders word [.name word] :=
  renders_of_not_mem (lineFeed_not_mem_of_isWord (Canonical.isWord_of_isName isName)) rfl
    (Name.spells_of_isName isName)

/-- A text behind another one and a colon. -/
theorem Renders.labelled
    {label text : String}
    {labelLexemes lexemes : List Lexeme}
    (renders : Renders text lexemes)
    (rendersLabel : Renders label labelLexemes) :
    Renders (label ++ ": " ++ text) (labelLexemes ++ .punctuator .colon :: lexemes) := by
  rw [String.append_assoc]
  exact rendersLabel.append (renders.after holds_colon) (opens_colon.append _).parted

/-! ## Values and types -/

theorem Value.lexemes_ne_nil (value : Value) : value.lexemes ≠ [] := by
  cases value with
  | string text block => cases block <;> simp [lexemes]
  | _ => simp [lexemes]

theorem Value.renders
    {value : Value}
    (drawn : value.Drawn Lexeme.Legible) :
    Renders value.print value.lexemes := by
  induction drawn with
  | reference name legible =>
    have holds : Holds "$" [.punctuator .dollar] := holds_mark "" .dollar "" (by decide) (by decide)
    exact legible.renders_name.after holds
  | int text legible => exact legible.renders_int
  | float text legible => exact legible.renders_float
  | string text legible => exact legible.renders_string
  | blockString text legible => exact legible.renders_blockString
  | boolean value =>
    cases value with
    | true => exact renders_word (by decide)
    | false => exact renders_word (by decide)
  | null => exact renders_word (by decide)
  | enum symbol legible _ => exact legible.renders_name
  | list items _ inductionHypothesis =>
    have opening : Holds "[" [.punctuator .bracketL] :=
      holds_mark "" .bracketL "" (by decide) (by decide)
    have closing : Holds "]" [.punctuator .bracketR] :=
      holds_mark "" .bracketR "" (by decide) (by decide)
    have joined := renders_join_map holds_comma opens_comma inductionHypothesis
    rw [print, printItems_eq_map, lexemes, itemLexemes_eq]
    exact (joined.after opening).append closing.renders (Opens.parted (by decide))
  | object fields named _ inductionHypothesis =>
    have opening : Holds "\x7b" [.punctuator .braceL] :=
      holds_mark "" .braceL "" (by decide) (by decide)
    have closing : Holds "\x7d" [.punctuator .braceR] :=
      holds_mark "" .braceR "" (by decide) (by decide)
    have rendersField : ∀ field ∈ fields, Renders (printField field)
        (.name field.1 :: .punctuator .colon :: field.2.lexemes) :=
      fun field present =>
        (inductionHypothesis field present).labelled (named field present).renders_name
    have joined := renders_join_map holds_comma opens_comma rendersField
    rw [print, printFields_eq_map, lexemes, fieldLexemes_eq]
    exact (joined.after opening).append closing.renders (Opens.parted (by decide))

theorem TypeRef.renders
    {type : TypeRef}
    (drawn : type.Drawn Lexeme.Legible) :
    Renders type.print type.lexemes := by
  induction drawn with
  | named name legible => exact legible.renders_name
  | list of _ inductionHypothesis =>
    have opening : Holds "[" [.punctuator .bracketL] :=
      holds_mark "" .bracketL "" (by decide) (by decide)
    have closing : Holds "]" [.punctuator .bracketR] :=
      holds_mark "" .bracketR "" (by decide) (by decide)
    exact (inductionHypothesis.after opening).append closing.renders (Opens.parted (by decide))
  | nonNull of _ _ inductionHypothesis =>
    have mark : Holds "!" [.punctuator .bang] := holds_mark "" .bang "" (by decide) (by decide)
    exact inductionHypothesis.append mark.renders (Opens.parted (by decide))

/-- A default value behind an equals sign, if there is one. -/
theorem renders_default
    {before : String}
    (holds : Holds before [.punctuator .equals])
    {default? : Option Value}
    (drawn : ∀ value ∈ default?, value.Drawn Lexeme.Legible) :
    Renders (wrap before ((default?.map Value.print).getD "") "") (defaultLexemes default?) := by
  cases default? with
  | none => exact renders_empty
  | some value =>
    have rendered := (Value.renders (drawn value rfl)).wrap value.lexemes_ne_nil holds
      renders_empty parted_empty
    simpa [defaultLexemes] using rendered

/-! ## Arguments and directives -/

theorem Argument.renders
    {argument : Argument}
    (drawn : argument.Drawn Lexeme.Legible) :
    Renders argument.print argument.lexemes :=
  (Value.renders drawn.value).labelled drawn.name.renders_name

theorem Argument.lexemes_ne_nil (argument : Argument) : argument.lexemes ≠ [] := nofun

theorem parted_inParens (texts : List String) : Parted (inParens texts) :=
  parted_wrap (by decide) _ _

theorem parted_inParensByLine (texts : List String) : Parted (inParensByLine texts) :=
  parted_wrap (by decide) _ _

theorem Directive.renders
    {directive : Directive}
    (drawn : directive.Drawn Lexeme.Legible) :
    Renders directive.print directive.lexemes := by
  have sign : Holds "@" [.punctuator .atSign] := holds_mark "" .atSign "" (by decide) (by decide)
  have given := renders_inParens
    (fun argument present => Argument.renders (drawn.arguments argument present))
    (fun argument _ => argument.lexemes_ne_nil)
  exact (drawn.name.renders_name.after sign).append given (parted_inParens _)

theorem Directive.renders_printAll
    {directives : List Directive}
    (drawn : ∀ directive ∈ directives, directive.Drawn Lexeme.Legible) :
    Renders (printAll directives) (directiveLexemes directives) :=
  renders_join_map holds_space opens_space fun directive present =>
    Directive.renders (drawn directive present)

/-! ## Selections -/

/-- A field's arguments are read alike on one line and on several. -/
theorem renders_fieldLine
    {label : String}
    {labelLexemes : List Lexeme}
    (renders : Renders label labelLexemes)
    {arguments : List Argument}
    (drawn : ∀ argument ∈ arguments, argument.Drawn Lexeme.Legible) :
    Renders
      (if widestLine < (label ++ inParens (arguments.map Argument.print)).length
        then label ++ inParensByLine (arguments.map Argument.print)
        else label ++ inParens (arguments.map Argument.print))
      (labelLexemes ++ inParentheses Argument.lexemes arguments) := by
  have rendersArgument : ∀ argument ∈ arguments, Renders argument.print argument.lexemes :=
    fun argument present => Argument.renders (drawn argument present)
  have byLine := renders_inParensByLine rendersArgument fun argument _ => argument.lexemes_ne_nil
  have onLine := renders_inParens rendersArgument fun argument _ => argument.lexemes_ne_nil
  split
  · exact renders.append byLine (parted_inParensByLine _)
  · exact renders.append onLine (parted_inParens _)

theorem renders_fieldHead
    {alias? : Option String}
    {name : String}
    {arguments : List Argument}
    (labelled : ∀ label ∈ alias?, Lexeme.Legible (.name label))
    (named : Lexeme.Legible (.name name))
    (drawn : ∀ argument ∈ arguments, argument.Drawn Lexeme.Legible) :
    Renders (Selection.fieldHead alias? name arguments)
      (Selection.labelLexemes alias? name ++ inParentheses Argument.lexemes arguments) := by
  rw [Selection.fieldHead.eq_def]
  cases alias? with
  | none => exact renders_fieldLine named.renders_name drawn
  | some label =>
    exact renders_fieldLine (named.renders_name.labelled (labelled label rfl).renders_name) drawn

theorem Selection.lexemes_ne_nil (selection : Selection) : selection.lexemes ≠ [] := by
  cases selection with
  | field alias? name arguments directives selections =>
    cases alias? <;> simp [lexemes, labelLexemes]
  | spread name directives => simp [lexemes]
  | inlineFragment condition? directives selections => simp [lexemes]

theorem inBraces_eq_bracedLexemes
    {selections : List Selection}
    (notEmpty : selections ≠ []) :
    inBraces Selection.lexemes selections = Selection.bracedLexemes selections := by
  obtain ⟨selection, selections, rfl⟩ := List.exists_cons_of_ne_nil notEmpty
  rfl

theorem Selection.renders_block
    {selections : List Selection}
    (renders : ∀ selection ∈ selections, Renders selection.print selection.lexemes) :
    Renders (block (printAll selections)) (inBraces lexemes selections) := by
  rw [Canonical.printAll_eq_map]
  exact Source.renders_block renders fun selection _ => selection.lexemes_ne_nil

theorem Selection.renders
    {selection : Selection}
    (drawn : selection.Drawn Lexeme.Legible)
    (filled : selection.Filled) :
    Renders selection.print selection.lexemes := by
  have spread : Holds "..." [.punctuator .spread] :=
    holds_mark "" .spread "" (by decide) (by decide)
  induction drawn with
  | field alias? name arguments directives selections labelled named given applied _
      inductionHypothesis =>
    rw [Filled, allFilled_iff] at filled
    have head := renders_fieldHead labelled named given
    have selected := renders_block fun selection present =>
      inductionHypothesis selection present (filled selection present)
    have joined := renders_join holds_space opens_space
      (.cons head (.cons (Directive.renders_printAll applied) (.cons selected .nil)))
    have braces : inBraces lexemes selections =
        if selections.isEmpty then [] else bracedLexemes selections := by
      cases selections <;> rfl
    rw [print, lexemes_field, ← braces]
    simpa using joined
  | spread name directives named applied =>
    have applied := (Directive.renders_printAll applied).behind holds_space
    exact (named.renders_name.after spread).append applied (parted_wrap (by decide) _ _)
  | inlineFragment condition? directives selections conditioned applied _ inductionHypothesis =>
    rw [Filled, allFilled_iff] at filled
    obtain ⟨notEmpty, filled⟩ := filled
    have selected := renders_block fun selection present =>
      inductionHypothesis selection present (filled selection present)
    have condition : Renders (wrap "on " (condition?.getD "") "")
        (conditionLexemes condition?) := by
      cases condition? with
      | none => exact renders_empty
      | some condition =>
        have word : Holds ("on" ++ " ") [.name "on"] :=
          (renders_word (by decide)).holds_append holds_space opens_space
        have rendered := (conditioned condition rfl).renders_name.wrap (by simp) word
          renders_empty parted_empty
        simpa [conditionLexemes] using rendered
    have joined := renders_join holds_space opens_space
      (.cons spread.renders (.cons condition (.cons (Directive.renders_printAll applied)
        (.cons selected .nil))))
    rw [print, lexemes_inlineFragment, ← inBraces_eq_bracedLexemes notEmpty]
    simpa using joined

/-! ## Declarations -/

theorem VariableDefinition.renders
    {declared : VariableDefinition}
    (drawn : declared.Drawn Lexeme.Legible) :
    Renders declared.print declared.lexemes := by
  have dollar : Holds "$" [.punctuator .dollar] := holds_mark "" .dollar "" (by decide) (by decide)
  have equals : Holds " = " [.punctuator .equals] :=
    holds_mark " " .equals " " (by decide) (by decide)
  have label := (drawn.name.renders_name.after dollar).holds_append holds_colon opens_colon
  have typed := (TypeRef.renders drawn.type).after label
  have given := typed.append (renders_default equals drawn.default) (parted_wrap (by decide) _ _)
  have applied := given.append
    ((Directive.renders_printAll drawn.directives).behind holds_space)
    (parted_wrap (by decide) _ _)
  simpa [lexemes, print] using applied

/-- A description is on lines of its own. -/
theorem holds_description
    {description? : Option Description}
    (drawn : ∀ description ∈ description?, description.Drawn Lexeme.Legible) :
    Holds (Description.printBefore description?) (descriptionLexemes description?) := by
  cases description? with
  | none => exact .of_isIgnored (by decide)
  | some description =>
    obtain ⟨text, block⟩ := description
    have legible : Description.Drawn Lexeme.Legible ⟨text, block⟩ := drawn _ rfl
    have rendered : Renders (stringText text block)
        (descriptionLexemes (some ⟨text, block⟩)) := by
      cases block with
      | false => exact Lexeme.Legible.renders_string legible
      | true => exact Lexeme.Legible.renders_blockString legible
    have holds := rendered.holds_append holds_lineEnd opens_lineEnd
    rwa [List.append_nil] at holds

theorem InputValue.renders
    {input : InputValue}
    (drawn : input.Drawn Lexeme.Legible) :
    Renders input.print input.lexemes := by
  have equals : Holds "= " [.punctuator .equals] :=
    holds_mark "" .equals " " (by decide) (by decide)
  have label := (TypeRef.renders drawn.type).labelled drawn.name.renders_name
  have joined := renders_join holds_space opens_space
    (.cons label (.cons (renders_default equals drawn.default)
      (.cons (Directive.renders_printAll drawn.directives) .nil)))
  have rendered := joined.after (holds_description drawn.description)
  simpa [lexemes, print] using rendered

theorem InputValue.lexemes_ne_nil (input : InputValue) : input.lexemes ≠ [] := by
  simp [lexemes]

theorem InputValue.renders_printParameters
    {parameters : List InputValue}
    (drawn : ∀ parameter ∈ parameters, parameter.Drawn Lexeme.Legible) :
    Renders (printParameters parameters) (inParentheses lexemes parameters) := by
  have rendersParameter : ∀ parameter ∈ parameters, Renders parameter.print parameter.lexemes :=
    fun parameter present => renders (drawn parameter present)
  rw [printParameters]
  split
  · exact renders_inParensByLine rendersParameter fun parameter _ => parameter.lexemes_ne_nil
  · exact renders_inParens rendersParameter fun parameter _ => parameter.lexemes_ne_nil

theorem InputValue.parted_printParameters (parameters : List InputValue) :
    Parted (printParameters parameters) := by
  rw [printParameters]
  split
  · exact parted_inParensByLine _
  · exact parted_inParens _

theorem FieldDefinition.renders
    {field : FieldDefinition}
    (drawn : field.Drawn Lexeme.Legible) :
    Renders field.print field.lexemes := by
  have named := drawn.name.renders_name.after (holds_description drawn.description)
  have given := named.append (InputValue.renders_printParameters drawn.parameters)
    (InputValue.parted_printParameters _)
  have typed := (TypeRef.renders drawn.type).after (given.holds_append holds_colon opens_colon)
  have applied := typed.append
    ((Directive.renders_printAll drawn.directives).behind holds_space)
    (parted_wrap (by decide) _ _)
  simpa [lexemes, print] using applied

theorem EnumValueDefinition.renders
    {value : EnumValueDefinition}
    (drawn : value.Drawn Lexeme.Legible) :
    Renders value.print value.lexemes := by
  have joined := renders_join holds_space opens_space
    (.cons drawn.name.renders_name
      (.cons (Directive.renders_printAll drawn.directives) .nil))
  have rendered := joined.after (holds_description drawn.description)
  simpa [lexemes, print] using rendered

theorem isName_kindText (kind : OperationKind) : Name.IsName kind.text := by
  cases kind <;> decide

theorem RootType.renders
    {root : RootType}
    (drawn : root.Drawn Lexeme.Legible) :
    Renders root.print root.lexemes :=
  (Lexeme.Legible.renders_name drawn).labelled (renders_word (isName_kindText root.kind))

/-! ## Types -/

/-- Names with a mark between neighbours. -/
theorem renders_delimited
    {separator : String}
    {mark : Punctuator}
    (holds : Holds separator [.punctuator mark])
    (opens : Opens separator)
    {names : List String}
    (legible : ∀ name ∈ names, Lexeme.Legible (.name name)) :
    Renders (join separator names) (delimitedNames mark names) := by
  have kept : names.filter (fun name => !name.isEmpty) = names := by
    rw [List.filter_eq_self]
    intro name present
    simpa using (legible name present).renders_name.ne_empty (by simp)
  rw [join, kept]
  cases names with
  | nil => exact renders_empty
  | cons name names =>
    clear kept
    induction names generalizing name with
    | nil => exact (legible name (by simp)).renders_name
    | cons next names inductionHypothesis =>
      have others := inductionHypothesis next fun other present =>
        legible other (List.mem_cons_of_mem _ present)
      rw [Lines.joinWith_cons_cons, String.append_assoc]
      exact (legible name (by simp)).renders_name.append (others.after holds)
        (opens.append _).parted

theorem delimitedNames_ne_nil
    {mark : Punctuator}
    {names : List String}
    (notEmpty : names ≠ []) :
    delimitedNames mark names ≠ [] := by
  obtain ⟨name, names, rfl⟩ := List.exists_cons_of_ne_nil notEmpty
  simp [delimitedNames]

theorem holds_amp : Holds " & " [.punctuator .amp] :=
  holds_mark " " .amp " " (by decide) (by decide)

theorem holds_pipe : Holds " | " [.punctuator .pipe] :=
  holds_mark " " .pipe " " (by decide) (by decide)

namespace TypeDefinition

theorem renders_printInterfaces
    {interfaces : List String}
    (legible : ∀ interface ∈ interfaces, Lexeme.Legible (.name interface)) :
    Renders (printInterfaces interfaces) (interfaceLexemes interfaces) := by
  cases interfaces with
  | nil => exact renders_empty
  | cons interface interfaces =>
    have word : Holds ("implements" ++ " ") [.name "implements"] :=
      (renders_word (by decide)).holds_append holds_space opens_space
    have rendered := (renders_delimited holds_amp (by decide) legible).wrap
      (delimitedNames_ne_nil (by simp)) word renders_empty parted_empty
    simpa [interfaceLexemes, printInterfaces] using rendered

/-- What follows an introduction in the text of a type follows the keyword in its lexemes. -/
theorem renders_printAfter
    {introduction : String}
    {introductionLexemes : List Lexeme}
    (introduced : Renders introduction introductionLexemes)
    {definition : TypeDefinition}
    (drawn : definition.Drawn Lexeme.Legible) :
    Renders (definition.printAfter introduction)
      (introductionLexemes ++ definition.lexemes.tail) := by
  obtain ⟨name, directives, body⟩ := definition
  obtain ⟨legible, drawnDirectives, drawn⟩ := drawn
  have named : Renders name [.name name] := Lexeme.Legible.renders_name legible
  have applied : Renders (Directive.printAll directives) (directiveLexemes directives) :=
    Directive.renders_printAll drawnDirectives
  have rendersFields {fields : List FieldDefinition}
      (drawn : ∀ field ∈ fields, field.Drawn Lexeme.Legible) :
      Renders (block (fields.map FieldDefinition.print))
        (inBraces FieldDefinition.lexemes fields) :=
    renders_block (fun field present => FieldDefinition.renders (drawn field present))
      fun field _ => by simp [FieldDefinition.lexemes]
  unfold printAfter
  cases body with
  | scalar =>
    have joined := renders_join holds_space opens_space
      (.cons introduced (.cons named (.cons applied .nil)))
    simpa [lexemes] using joined
  | object interfaces fields =>
    have joined := renders_join holds_space opens_space
      (.cons introduced (.cons named (.cons (renders_printInterfaces drawn.1)
        (.cons applied (.cons (rendersFields drawn.2) .nil)))))
    simpa [lexemes] using joined
  | interface interfaces fields =>
    have joined := renders_join holds_space opens_space
      (.cons introduced (.cons named (.cons (renders_printInterfaces drawn.1)
        (.cons applied (.cons (rendersFields drawn.2) .nil)))))
    simpa [lexemes] using joined
  | union members =>
    have joinedMembers : Renders (if members.isEmpty then "" else "= " ++ join " | " members)
        (if members.isEmpty then [] else .punctuator .equals :: delimitedNames .pipe members) := by
      split
      · exact renders_empty
      · exact (renders_delimited holds_pipe (by decide) drawn).after
          (holds_mark "" .equals " " (by decide) (by decide))
    have joined := renders_join holds_space opens_space
      (.cons introduced (.cons named (.cons applied (.cons joinedMembers .nil))))
    simpa [lexemes] using joined
  | enum values =>
    have rendersValues := renders_block
      (fun value present => EnumValueDefinition.renders (drawn value present))
      fun value _ => by simp [EnumValueDefinition.lexemes]
    have joined := renders_join holds_space opens_space
      (.cons introduced (.cons named (.cons applied (.cons rendersValues .nil))))
    simpa [lexemes] using joined
  | input fields =>
    have rendersInputs := renders_block
      (fun field present => InputValue.renders (drawn field present))
      fun field _ => field.lexemes_ne_nil
    have joined := renders_join holds_space opens_space
      (.cons introduced (.cons named (.cons applied (.cons rendersInputs .nil))))
    simpa [lexemes] using joined

end TypeDefinition

/-- A word of the grammar behind a space. -/
theorem renders_space_word
    {text word : String}
    (split : text = " " ++ word)
    (isName : Name.IsName word) :
    Renders text [.name word] := by
  rw [split]
  exact (renders_word isName).after holds_space

theorem DirectiveDefinition.renders
    {definition : DirectiveDefinition}
    (drawn : definition.Drawn Lexeme.Legible) :
    Renders definition.print definition.lexemes := by
  have sign : Holds " @" [.punctuator .atSign] :=
    holds_mark " " .atSign "" (by decide) (by decide)
  have introduction : Holds ("directive" ++ " @") [.name "directive", .punctuator .atSign] :=
    (renders_word (by decide)).holds_append sign (by decide)
  have named := drawn.name.renders_name.after introduction
  have given := named.append (InputValue.renders_printParameters drawn.parameters)
    (InputValue.parted_printParameters _)
  have repeatable : Renders (if definition.repeatable then " repeatable" else "")
      (if definition.repeatable then [.name "repeatable"] else []) := by
    split
    · exact renders_space_word (by decide) (by decide)
    · exact renders_empty
  have partedRepeatable : Parted (if definition.repeatable then " repeatable" else "") := by
    split
    · exact Opens.parted (by decide)
    · exact parted_empty
  have word : Renders " on" [.name "on"] := renders_space_word (by decide) (by decide)
  have places := word.holds_append holds_space opens_space
  have located := (renders_delimited holds_pipe (by decide) drawn.locations).after
    ((given.append repeatable partedRepeatable).holds_append places (by decide))
  simpa [lexemes, print] using located

/-! ## Definitions -/

/-- The lexemes of the canonical text of a definition: those of the definition, without the
keyword of a query that has nothing before its selections. -/
def Definition.printed : Definition → List Lexeme
  | .operation kind name? declared directives selections =>
    if Canonical.isShorthand kind name? declared directives then
      Selection.bracedLexemes selections
    else (Definition.operation kind name? declared directives selections).lexemes
  | definition => definition.lexemes

theorem renders_signature
    {name? : Option String}
    {declarations : List VariableDefinition}
    (named : ∀ name ∈ name?, Lexeme.Legible (.name name))
    (drawn : ∀ declared ∈ declarations, declared.Drawn Lexeme.Legible) :
    Renders (join "" [name?.getD "", inParens (declarations.map VariableDefinition.print)])
      ((name?.map .name).toList ++ inParentheses VariableDefinition.lexemes declarations) := by
  have name : Renders (name?.getD "") (name?.map .name).toList := by
    cases name? with
    | none => exact renders_empty
    | some name => exact (named name rfl).renders_name
  have given := renders_inParens
    (fun declared present => VariableDefinition.renders (drawn declared present))
    fun declared _ => by simp [VariableDefinition.lexemes]
  have joined : join "" [name?.getD "", inParens (declarations.map VariableDefinition.print)] =
      name?.getD "" ++ inParens (declarations.map VariableDefinition.print) := by
    rw [← String.toList_inj, Canonical.toList_join_pair, String.toList_append]
  rw [joined]
  exact name.append given (parted_inParens _)

section Operations

variable
  (kind : OperationKind)
  {name? : Option String}
  {declarations : List VariableDefinition}
  {directives : List Directive}
  (named : ∀ name ∈ name?, Lexeme.Legible (.name name))
  (drawn : ∀ declared ∈ declarations, declared.Drawn Lexeme.Legible)
  (applied : ∀ directive ∈ directives, directive.Drawn Lexeme.Legible)

include named drawn applied

theorem renders_operationHead :
    Renders (Definition.operationHead kind name? declarations directives)
      (.name kind.text :: ((name?.map .name).toList ++
        (inParentheses VariableDefinition.lexemes declarations ++
          directiveLexemes directives))) := by
  have joined := renders_join holds_space opens_space
    (.cons (renders_word (isName_kindText kind)) (.cons (renders_signature named drawn)
      (.cons (Directive.renders_printAll applied) .nil)))
  simpa [Definition.operationHead] using joined

/-- What stands before the selections is the keyword of a query only if there is nothing
else. -/
theorem operationHead_eq_query :
    Definition.operationHead kind name? declarations directives = "query" ↔
      Canonical.isShorthand kind name? declarations directives = true := by
  rw [Canonical.isShorthand_iff]
  constructor
  · intro isKeyword
    have head := (renders_operationHead kind named drawn applied).spells.lexed_eq
    have word : Renders "query" [.name "query"] := renders_word (by decide)
    rw [isKeyword, word.spells.lexed_eq] at head
    have sameLexemes := (Lexed.mk.inj head).1
    simp only [List.map_cons, List.map_nil, List.map_append, List.cons.injEq,
      List.nil_eq, List.append_eq_nil_iff, List.map_eq_nil_iff] at sameLexemes
    obtain ⟨sameKind, noName, noVariables, noDirectives⟩ := sameLexemes
    refine ⟨?_, ?_, ?_, ?_⟩
    · cases kind <;> simp [Lexeme.settled, OperationKind.text] at sameKind ⊢
    · simpa using noName
    · cases declarations with
      | nil => rfl
      | cons declared declarations => cases noVariables
    · cases directives with
      | nil => rfl
      | cons directive directives => cases noDirectives
  · rintro ⟨rfl, rfl, rfl, rfl⟩
    rfl

end Operations

theorem renders_selections
    {selections : List Selection}
    (drawn : ∀ selection ∈ selections, selection.Drawn Lexeme.Legible)
    (notEmpty : selections ≠ [])
    (filled : ∀ selection ∈ selections, selection.Filled) :
    Renders (block (Selection.printAll selections)) (Selection.bracedLexemes selections) := by
  rw [← inBraces_eq_bracedLexemes notEmpty]
  exact Selection.renders_block fun selection present =>
    Selection.renders (drawn selection present) (filled selection present)

theorem renders_roots
    {roots : List RootType}
    (drawn : ∀ root ∈ roots, root.Drawn Lexeme.Legible) :
    Renders (block (roots.map RootType.print)) (inBraces RootType.lexemes roots) :=
  renders_block (fun root present => RootType.renders (drawn root present))
    fun root _ => by simp [RootType.lexemes]

theorem isName_keyword (body : TypeBody) : Name.IsName body.keyword := by
  cases body <;> simp only [TypeBody.keyword] <;> decide

theorem Definition.renders
    {definition : Definition}
    (drawn : definition.Drawn Lexeme.Legible)
    (complete : definition.Complete) :
    Renders definition.print definition.printed := by
  cases definition with
  | operation kind name? declarations directives selections =>
    obtain ⟨named, declared, applied, -, selected⟩ := drawn
    obtain ⟨-, notEmpty, filled⟩ := complete
    have shorthand := operationHead_eq_query kind named declared applied
    have selections := renders_selections selected notEmpty filled
    rw [print, printed]
    by_cases isShorthand : Canonical.isShorthand kind name? declarations directives = true
    · rw [if_pos (shorthand.mpr isShorthand), if_pos isShorthand, String.empty_append]
      exact selections
    · rw [if_neg (fun isQuery => isShorthand (shorthand.mp isQuery)), if_neg isShorthand]
      have head := (renders_operationHead kind named declared applied).holds_append holds_space
        opens_space
      simpa [lexemes] using selections.after head
  | fragment name condition directives selections =>
    obtain ⟨named, conditioned, applied, -, selected⟩ := drawn
    obtain ⟨notEmpty, filled⟩ := complete
    have keyword : Holds ("fragment" ++ " ") [.name "fragment"] :=
      (renders_word (by decide)).holds_append holds_space opens_space
    have word : Renders " on" [.name "on"] := renders_space_word (by decide) (by decide)
    have on := word.holds_append holds_space opens_space
    have introduced := (named.renders_name.after keyword).holds_append on (by decide)
    have condition := (conditioned.renders_name.after introduced).holds_append holds_space
      opens_space
    have directed : Holds (wrap "" (Directive.printAll directives) " ")
        (directiveLexemes directives) :=
      (Directive.renders_printAll applied).holds_wrap holds_space opens_space
    have rendered := (renders_selections selected notEmpty filled).after
      (condition.append directed)
    simpa [lexemes, printed, print] using rendered
  | schema description? directives roots =>
    obtain ⟨described, applied, drawn⟩ := drawn
    have keyword : Renders "schema" [.name "schema"] := renders_word (by decide)
    have joined := renders_join holds_space opens_space
      (.cons keyword (.cons (Directive.renders_printAll applied)
        (.cons (renders_roots drawn) .nil)))
    have rendered := joined.after (holds_description described)
    simpa [lexemes, printed, print] using rendered
  | schemaExtension directives roots =>
    obtain ⟨applied, drawn⟩ := drawn
    have keywords : Renders ("extend" ++ " schema") [.name "extend", .name "schema"] :=
      (renders_word (by decide)).append (renders_space_word (by decide) (by decide))
        (Opens.parted (by decide))
    have joined := renders_join holds_space opens_space
      (.cons keywords (.cons (Directive.renders_printAll applied)
        (.cons (renders_roots drawn) .nil)))
    simpa [lexemes, printed, print] using joined
  | type description? definition =>
    obtain ⟨described, drawn⟩ := drawn
    have rendered := (TypeDefinition.renders_printAfter
      (renders_word (isName_keyword definition.body)) drawn).after (holds_description described)
    exact rendered
  | typeExtension extension =>
    have keyword : Holds ("extend" ++ " ") [.name "extend"] :=
      (renders_word (by decide)).holds_append holds_space opens_space
    have keywords := (renders_word (isName_keyword extension.body)).after keyword
    exact TypeDefinition.renders_printAfter keywords drawn
  | directive description? definition =>
    obtain ⟨described, drawn⟩ := drawn
    exact (DirectiveDefinition.renders drawn).after (holds_description described)

/-! ## Documents -/

/-- The lexemes of the canonical text of a document. -/
def Document.printed (document : Document) : List Lexeme :=
  document.definitions.flatMap Definition.printed

/-- Canonical text is read as the lexemes of the definitions, with block strings settled. -/
theorem Document.renders_print
    {document : Document}
    (drawn : document.Drawn Lexeme.Legible)
    (complete : ∀ definition ∈ document.definitions, definition.Complete) :
    Renders document.print document.printed :=
  renders_join_map (.of_isIgnored (by decide)) (by decide) fun definition present =>
    Definition.renders (drawn definition present) (complete definition present)

end Source
end GraphQL
