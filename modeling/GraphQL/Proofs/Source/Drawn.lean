import GraphQL.Proofs.Source.Readable
import GraphQL.Source.Token

/-!
# Documents drawn from lexemes

A document is drawn from lexemes of some kind if everything that is written in it is
such a lexeme: names, numerals, strings and descriptions.  Besides, its parts can be told
apart and nothing is missing in it, which every reader sees to: an enum symbol is no
other word, no type has two exclamation marks in a row, and there are selections and
locations wherever the grammar wants some.
-/

namespace GraphQL
namespace Source

variable (sound : Lexeme → Prop)

/-! ## Values and types -/

/-- The texts and names in the value are sound lexemes, and an enum symbol is no other
word. -/
inductive Value.Drawn : Value → Prop
  | reference (name : String) :
      sound (.name name) →
      Drawn (.variable name)
  | int (text : String) :
      sound (.int text) →
      Drawn (.int text)
  | float (text : String) :
      sound (.float text) →
      Drawn (.float text)
  | string (text : String) :
      sound (.string text) →
      Drawn (.string text false)
  | blockString (text : String) :
      sound (.blockString text) →
      Drawn (.string text true)
  | boolean (value : Bool) : Drawn (.boolean value)
  | null : Drawn .null
  | enum (symbol : String) :
      sound (.name symbol) →
      Text.Name.isReserved symbol = false →
      Drawn (.enum symbol)
  | list (items : List Value) :
      (∀ item ∈ items, Drawn item) →
      Drawn (.list items)
  | object (fields : List (String × Value)) :
      (∀ field ∈ fields, sound (.name field.1)) →
      (∀ field ∈ fields, Drawn field.2) →
      Drawn (.object fields)

/-- The name in the type is a sound lexeme, and nothing is marked twice as being without
null. -/
inductive TypeRef.Drawn : TypeRef → Prop
  | named (name : String) :
      sound (.name name) →
      Drawn (.named name)
  | list (of : TypeRef) :
      Drawn of →
      Drawn (.list of)
  | nonNull (of : TypeRef) :
      Drawn of →
      of.isNonNull = false →
      Drawn (.nonNull of)

/-- The argument is drawn from sound lexemes. -/
structure Argument.Drawn (argument : Argument) : Prop where
  /-- The name of the parameter is sound. -/
  name : sound (.name argument.name)
  /-- The value is drawn from sound lexemes. -/
  value : argument.value.Drawn sound

/-- The directive is drawn from sound lexemes. -/
structure Directive.Drawn (directive : Directive) : Prop where
  /-- The name is sound. -/
  name : sound (.name directive.name)
  /-- The arguments are drawn from sound lexemes. -/
  arguments : ∀ argument ∈ directive.arguments, argument.Drawn sound

/-! ## Operations and fragments -/

/-- The selection is drawn from sound lexemes. -/
inductive Selection.Drawn : Selection → Prop
  | field
      (alias? : Option String)
      (name : String)
      (arguments : List Argument)
      (directives : List Directive)
      (selections : List Selection) :
      (∀ label ∈ alias?, sound (.name label)) →
      sound (.name name) →
      (∀ argument ∈ arguments, argument.Drawn sound) →
      (∀ directive ∈ directives, directive.Drawn sound) →
      (∀ selection ∈ selections, Drawn selection) →
      Drawn (.field alias? name arguments directives selections)
  | spread (name : String) (directives : List Directive) :
      sound (.name name) →
      (∀ directive ∈ directives, directive.Drawn sound) →
      Drawn (.spread name directives)
  | inlineFragment
      (condition? : Option String)
      (directives : List Directive)
      (selections : List Selection) :
      (∀ condition ∈ condition?, sound (.name condition)) →
      (∀ directive ∈ directives, directive.Drawn sound) →
      (∀ selection ∈ selections, Drawn selection) →
      Drawn (.inlineFragment condition? directives selections)

/-- The definition of a variable is drawn from sound lexemes. -/
structure VariableDefinition.Drawn (definition : VariableDefinition) : Prop where
  /-- The name is sound. -/
  name : sound (.name definition.name)
  /-- The type is drawn from sound lexemes. -/
  type : definition.type.Drawn sound
  /-- The default value, if there is one, is drawn from sound lexemes. -/
  default : ∀ value ∈ definition.default?, value.Drawn sound
  /-- The directives are drawn from sound lexemes. -/
  directives : ∀ directive ∈ definition.directives, directive.Drawn sound

/-! ## Type systems -/

/-- The description is a sound string. -/
def Description.Drawn (description : Description) : Prop :=
  sound (if description.block then .blockString description.text else .string description.text)

/-- The parameter is drawn from sound lexemes. -/
structure InputValue.Drawn (input : InputValue) : Prop where
  /-- The description, if there is one, is sound. -/
  description : ∀ description ∈ input.description?, description.Drawn sound
  /-- The name is sound. -/
  name : sound (.name input.name)
  /-- The type is drawn from sound lexemes. -/
  type : input.type.Drawn sound
  /-- The default value, if there is one, is drawn from sound lexemes. -/
  default : ∀ value ∈ input.default?, value.Drawn sound
  /-- The directives are drawn from sound lexemes. -/
  directives : ∀ directive ∈ input.directives, directive.Drawn sound

/-- The field of a type is drawn from sound lexemes. -/
structure FieldDefinition.Drawn (field : FieldDefinition) : Prop where
  /-- The description, if there is one, is sound. -/
  description : ∀ description ∈ field.description?, description.Drawn sound
  /-- The name is sound. -/
  name : sound (.name field.name)
  /-- The parameters are drawn from sound lexemes. -/
  parameters : ∀ parameter ∈ field.parameters, parameter.Drawn sound
  /-- The type is drawn from sound lexemes. -/
  type : field.type.Drawn sound
  /-- The directives are drawn from sound lexemes. -/
  directives : ∀ directive ∈ field.directives, directive.Drawn sound

/-- The value of an enum type is drawn from sound lexemes. -/
structure EnumValueDefinition.Drawn (value : EnumValueDefinition) : Prop where
  /-- The description, if there is one, is sound. -/
  description : ∀ description ∈ value.description?, description.Drawn sound
  /-- The symbol is sound. -/
  name : sound (.name value.name)
  /-- The directives are drawn from sound lexemes. -/
  directives : ∀ directive ∈ value.directives, directive.Drawn sound

/-- The name of the root type is sound. -/
def RootType.Drawn (root : RootType) : Prop :=
  sound (.name root.type)

/-- What the type holds is drawn from sound lexemes. -/
def TypeBody.Drawn : TypeBody → Prop
  | .scalar => True
  | .object interfaces fields | .interface interfaces fields =>
    (∀ interface ∈ interfaces, sound (.name interface)) ∧ ∀ field ∈ fields, field.Drawn sound
  | .union members => ∀ member ∈ members, sound (.name member)
  | .enum values => ∀ value ∈ values, value.Drawn sound
  | .input fields => ∀ field ∈ fields, field.Drawn sound

/-- The named type is drawn from sound lexemes. -/
structure TypeDefinition.Drawn (definition : TypeDefinition) : Prop where
  /-- The name is sound. -/
  name : sound (.name definition.name)
  /-- The directives are drawn from sound lexemes. -/
  directives : ∀ directive ∈ definition.directives, directive.Drawn sound
  /-- What the type holds is drawn from sound lexemes. -/
  body : definition.body.Drawn sound

/-- The definition of a directive is drawn from sound lexemes. -/
structure DirectiveDefinition.Drawn (definition : DirectiveDefinition) : Prop where
  /-- The name is sound. -/
  name : sound (.name definition.name)
  /-- The parameters are drawn from sound lexemes. -/
  parameters : ∀ parameter ∈ definition.parameters, parameter.Drawn sound
  /-- The directive may be applied somewhere. -/
  located : definition.locations ≠ []
  /-- The names of the places are sound. -/
  locations : ∀ location ∈ definition.locations, sound (.name location)

/-! ## Documents -/

/-- The definition is drawn from sound lexemes, and an operation or fragment selects
something. -/
def Definition.Drawn : Definition → Prop
  | .operation _ name? declarations directives selections =>
    (∀ name ∈ name?, sound (.name name)) ∧ (∀ declared ∈ declarations, declared.Drawn sound) ∧
      (∀ directive ∈ directives, directive.Drawn sound) ∧ selections ≠ [] ∧
      ∀ selection ∈ selections, selection.Drawn sound
  | .fragment name condition directives selections =>
    sound (.name name) ∧ sound (.name condition) ∧
      (∀ directive ∈ directives, directive.Drawn sound) ∧ selections ≠ [] ∧
      ∀ selection ∈ selections, selection.Drawn sound
  | .schema description? directives roots =>
    (∀ description ∈ description?, description.Drawn sound) ∧
      (∀ directive ∈ directives, directive.Drawn sound) ∧ ∀ root ∈ roots, root.Drawn sound
  | .schemaExtension directives roots =>
    (∀ directive ∈ directives, directive.Drawn sound) ∧ ∀ root ∈ roots, root.Drawn sound
  | .type description? definition =>
    (∀ description ∈ description?, description.Drawn sound) ∧ definition.Drawn sound
  | .typeExtension extension => extension.Drawn sound
  | .directive description? definition =>
    (∀ description ∈ description?, description.Drawn sound) ∧ definition.Drawn sound

/-- The definitions of the document are drawn from sound lexemes. -/
def Document.Drawn (document : Document) : Prop :=
  ∀ definition ∈ document.definitions, definition.Drawn sound

end Source
end GraphQL
