import GraphQL.Source.Document
import GraphQL.Source.Token

/-!
# The lexemes of documents

What a document is written with, token by token.  A group in brackets that may be left
out is left out where it holds nothing; the braces of a selection set are there
wherever the grammar wants them, so that the lexemes also show where a selection set is
missing.
-/

namespace GraphQL
namespace Source

/-- Items in parentheses, or nothing where there are no items. -/
def inParentheses {α : Type} (lexemes : α → List Lexeme) : List α → List Lexeme
  | [] => []
  | item :: items =>
    .punctuator .parenL :: ((item :: items).flatMap lexemes ++ [.punctuator .parenR])

/-- Items in braces, or nothing where there are no items. -/
def inBraces {α : Type} (lexemes : α → List Lexeme) : List α → List Lexeme
  | [] => []
  | item :: items =>
    .punctuator .braceL :: ((item :: items).flatMap lexemes ++ [.punctuator .braceR])

/-- Names with a delimiter between neighbours. -/
def delimitedNames (delimiter : Punctuator) : List String → List Lexeme
  | [] => []
  | name :: names => .name name :: names.flatMap fun name => [.punctuator delimiter, .name name]

/-! ## Values and types -/

namespace Value

mutual

/-- The lexemes of a value. -/
def lexemes : Value → List Lexeme
  | .variable name => [.punctuator .dollar, .name name]
  | .int text => [.int text]
  | .float text => [.float text]
  | .string text false => [.string text]
  | .string text true => [.blockString text]
  | .boolean value => [.name (if value then "true" else "false")]
  | .null => [.name "null"]
  | .enum symbol => [.name symbol]
  | .list items => .punctuator .bracketL :: (itemLexemes items ++ [.punctuator .bracketR])
  | .object fields => .punctuator .braceL :: (fieldLexemes fields ++ [.punctuator .braceR])

/-- The lexemes of values. -/
def itemLexemes : List Value → List Lexeme
  | [] => []
  | item :: items => lexemes item ++ itemLexemes items

/-- The lexemes of the fields of an object. -/
def fieldLexemes : List (String × Value) → List Lexeme
  | [] => []
  | (name, value) :: fields =>
    .name name :: .punctuator .colon :: (lexemes value ++ fieldLexemes fields)

end

@[simp] theorem itemLexemes_eq (items : List Value) :
    itemLexemes items = items.flatMap lexemes := by
  induction items with
  | nil => rfl
  | cons item items inductionHypothesis => simp [itemLexemes, inductionHypothesis]

@[simp] theorem fieldLexemes_eq (fields : List (String × Value)) :
    fieldLexemes fields = fields.flatMap fun field =>
      .name field.1 :: .punctuator .colon :: field.2.lexemes := by
  induction fields with
  | nil => rfl
  | cons field fields inductionHypothesis =>
    obtain ⟨name, value⟩ := field
    simp [fieldLexemes, inductionHypothesis]

end Value

/-- The lexemes of a reference to a type. -/
def TypeRef.lexemes : TypeRef → List Lexeme
  | .named name => [.name name]
  | .list of => .punctuator .bracketL :: (of.lexemes ++ [.punctuator .bracketR])
  | .nonNull of => of.lexemes ++ [.punctuator .bang]

/-- The lexemes of a default value, if there is one. -/
def defaultLexemes (default? : Option Value) : List Lexeme :=
  match default? with
  | none => []
  | some default => .punctuator .equals :: default.lexemes

/-! ## Arguments and directives -/

/-- The lexemes of an argument. -/
def Argument.lexemes (argument : Argument) : List Lexeme :=
  .name argument.name :: .punctuator .colon :: argument.value.lexemes

/-- The lexemes of a directive. -/
def Directive.lexemes (directive : Directive) : List Lexeme :=
  .punctuator .atSign :: .name directive.name ::
    inParentheses Argument.lexemes directive.arguments

/-- The lexemes of directives. -/
def directiveLexemes (directives : List Directive) : List Lexeme :=
  directives.flatMap Directive.lexemes

/-! ## Operations and fragments -/

namespace Selection

/-- The lexemes of what a field is requested as. -/
def labelLexemes (alias? : Option String) (name : String) : List Lexeme :=
  match alias? with
  | none => [.name name]
  | some label => [.name label, .punctuator .colon, .name name]

/-- The lexemes of a type condition, if there is one. -/
def conditionLexemes (condition? : Option String) : List Lexeme :=
  match condition? with
  | none => []
  | some condition => [.name "on", .name condition]

mutual

/-- The lexemes of a selection. -/
def lexemes : Selection → List Lexeme
  | .field alias? name arguments directives selections =>
    labelLexemes alias? name ++ inParentheses Argument.lexemes arguments ++
      directiveLexemes directives ++
      (if selections.isEmpty then []
        else .punctuator .braceL :: (setLexemes selections ++ [.punctuator .braceR]))
  | .spread name directives =>
    .punctuator .spread :: .name name :: directiveLexemes directives
  | .inlineFragment condition? directives selections =>
    .punctuator .spread :: (conditionLexemes condition? ++ directiveLexemes directives ++
      .punctuator .braceL :: (setLexemes selections ++ [.punctuator .braceR]))

/-- The lexemes of selections. -/
def setLexemes : List Selection → List Lexeme
  | [] => []
  | selection :: selections => lexemes selection ++ setLexemes selections

end

@[simp] theorem setLexemes_eq (selections : List Selection) :
    setLexemes selections = selections.flatMap lexemes := by
  induction selections with
  | nil => rfl
  | cons selection selections inductionHypothesis => simp [setLexemes, inductionHypothesis]

/-- The lexemes of a selection set. -/
def bracedLexemes (selections : List Selection) : List Lexeme :=
  .punctuator .braceL :: (selections.flatMap lexemes ++ [.punctuator .braceR])

theorem lexemes_field
    (alias? : Option String)
    (name : String)
    (arguments : List Argument)
    (directives : List Directive)
    (selections : List Selection) :
    (field alias? name arguments directives selections).lexemes =
      labelLexemes alias? name ++ (inParentheses Argument.lexemes arguments ++
        (directiveLexemes directives ++
          if selections.isEmpty then [] else bracedLexemes selections)) := by
  simp [lexemes, bracedLexemes]

theorem lexemes_inlineFragment
    (condition? : Option String)
    (directives : List Directive)
    (selections : List Selection) :
    (inlineFragment condition? directives selections).lexemes =
      .punctuator .spread :: (conditionLexemes condition? ++
        (directiveLexemes directives ++ bracedLexemes selections)) := by
  simp [lexemes, bracedLexemes]

/-- A selection in a set has fewer lexemes than the set with its braces. -/
theorem length_lexemes_lt_of_mem
    {selections : List Selection}
    {selection : Selection}
    (present : selection ∈ selections) :
    selection.lexemes.length < (bracedLexemes selections).length := by
  obtain ⟨before, after, rfl⟩ := List.append_of_mem present
  simp only [bracedLexemes, List.flatMap_append, List.flatMap_cons, List.length_append,
    List.length_cons]
  omega

end Selection

/-- The lexemes of the definition of a variable. -/
def VariableDefinition.lexemes (declared : VariableDefinition) : List Lexeme :=
  .punctuator .dollar :: .name declared.name :: .punctuator .colon ::
    (declared.type.lexemes ++ defaultLexemes declared.default? ++
      directiveLexemes declared.directives)

/-! ## Type systems -/

/-- The lexeme of a description, if there is one. -/
def descriptionLexemes (description? : Option Description) : List Lexeme :=
  match description? with
  | none => []
  | some description =>
    if description.block then [.blockString description.text] else [.string description.text]

/-- The lexemes of a parameter or of a field of an input type. -/
def InputValue.lexemes (input : InputValue) : List Lexeme :=
  descriptionLexemes input.description? ++ .name input.name :: .punctuator .colon ::
    (input.type.lexemes ++ defaultLexemes input.default? ++ directiveLexemes input.directives)

/-- The lexemes of a field of an object or interface type. -/
def FieldDefinition.lexemes (field : FieldDefinition) : List Lexeme :=
  descriptionLexemes field.description? ++ .name field.name ::
    (inParentheses InputValue.lexemes field.parameters ++ .punctuator .colon ::
      (field.type.lexemes ++ directiveLexemes field.directives))

/-- The lexemes of a value of an enum type. -/
def EnumValueDefinition.lexemes (value : EnumValueDefinition) : List Lexeme :=
  descriptionLexemes value.description? ++ .name value.name :: directiveLexemes value.directives

/-- The lexemes of a root type. -/
def RootType.lexemes (root : RootType) : List Lexeme :=
  [.name root.kind.text, .punctuator .colon, .name root.type]

/-- The lexemes of the interfaces of a type, if there are any. -/
def interfaceLexemes (interfaces : List String) : List Lexeme :=
  if interfaces.isEmpty then [] else .name "implements" :: delimitedNames .amp interfaces

/-- The lexemes of a type definition or extension, from the keyword on. -/
def TypeDefinition.lexemes (definition : TypeDefinition) : List Lexeme :=
  .name definition.body.keyword :: .name definition.name ::
    match definition.body with
    | .scalar => directiveLexemes definition.directives
    | .object interfaces fields | .interface interfaces fields =>
      interfaceLexemes interfaces ++ directiveLexemes definition.directives ++
        inBraces FieldDefinition.lexemes fields
    | .union members =>
      directiveLexemes definition.directives ++
        if members.isEmpty then [] else .punctuator .equals :: delimitedNames .pipe members
    | .enum values =>
      directiveLexemes definition.directives ++ inBraces EnumValueDefinition.lexemes values
    | .input fields =>
      directiveLexemes definition.directives ++ inBraces InputValue.lexemes fields

/-- The lexemes of the definition of a directive. -/
def DirectiveDefinition.lexemes (directive : DirectiveDefinition) : List Lexeme :=
  .name "directive" :: .punctuator .atSign :: .name directive.name ::
    (inParentheses InputValue.lexemes directive.parameters ++
      (if directive.repeatable then [.name "repeatable"] else []) ++
      .name "on" :: delimitedNames .pipe directive.locations)

/-! ## Documents -/

/-- The lexemes of a definition, where an operation always has its keyword. -/
def Definition.lexemes : Definition → List Lexeme
  | .operation kind name? declared directives selections =>
    .name kind.text :: ((name?.map .name).toList ++
      inParentheses VariableDefinition.lexemes declared ++ directiveLexemes directives ++
      Selection.bracedLexemes selections)
  | .fragment name condition directives selections =>
    .name "fragment" :: .name name :: .name "on" :: .name condition ::
      (directiveLexemes directives ++ Selection.bracedLexemes selections)
  | .schema description? directives roots =>
    descriptionLexemes description? ++ .name "schema" ::
      (directiveLexemes directives ++ inBraces RootType.lexemes roots)
  | .schemaExtension directives roots =>
    .name "extend" :: .name "schema" ::
      (directiveLexemes directives ++ inBraces RootType.lexemes roots)
  | .type description? definition => descriptionLexemes description? ++ definition.lexemes
  | .typeExtension extension => .name "extend" :: extension.lexemes
  | .directive description? definition => descriptionLexemes description? ++ definition.lexemes

/-- The lexemes of a document. -/
def Document.lexemes (document : Document) : List Lexeme :=
  document.definitions.flatMap Definition.lexemes

end Source
end GraphQL
