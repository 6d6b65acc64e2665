/-!
# Documents

What source text stands for: operations and fragments, and the definitions of a
type system and their extensions.  A selection without a selection set of its
own has an empty list of selections, since a set that is written is never empty.
-/

namespace GraphQL
namespace Source

/-- Values as written; numbers keep their text. -/
inductive Value
  | variable (name : String)
  | int (text : String)
  | float (text : String)
  | string (text : String) (block : Bool)
  | boolean (value : Bool)
  | null
  | enum (symbol : String)
  | list (items : List Value)
  | object (fields : List (String × Value))

/-- References to types. -/
inductive TypeRef
  | named (name : String)
  | list (of : TypeRef)
  | nonNull (of : TypeRef)
  deriving DecidableEq, Repr

/-- A named value given to a field or directive. -/
structure Argument where
  /-- The name of the parameter. -/
  name : String
  /-- The value given. -/
  value : Value

/-- A directive as applied. -/
structure Directive where
  /-- The name after the sign. -/
  name : String
  /-- The arguments, in order. -/
  arguments : List Argument

/-- What a selection set holds. -/
inductive Selection
  | field (alias? : Option String) (name : String) (arguments : List Argument)
      (directives : List Directive) (selections : List Selection)
  | spread (name : String) (directives : List Directive)
  | inlineFragment (condition : Option String) (directives : List Directive)
      (selections : List Selection)

/-- The kinds of operation. -/
inductive OperationKind
  | query
  | mutation
  | subscription
  deriving DecidableEq, Repr

namespace OperationKind

/-- The keyword of a kind. -/
def text : OperationKind → String
  | query => "query"
  | mutation => "mutation"
  | subscription => "subscription"

/-- The kind with a keyword. -/
def ofText? (word : String) : Option OperationKind :=
  if word = "query" then some query
  else if word = "mutation" then some mutation
  else if word = "subscription" then some subscription
  else none

end OperationKind

/-- A declared variable of an operation. -/
structure VariableDefinition where
  /-- The name without its sign. -/
  name : String
  /-- The declared type. -/
  type : TypeRef
  /-- The default value, if one is given. -/
  default? : Option Value
  /-- The directives, in order. -/
  directives : List Directive

/-- A description: a string before what it describes. -/
structure Description where
  /-- The value of the string. -/
  text : String
  /-- The string is a block string. -/
  block : Bool
  deriving DecidableEq, Repr

/-- A parameter of a field or directive, or a field of an input type. -/
structure InputValue where
  /-- The description, if there is one. -/
  description? : Option Description
  /-- The name. -/
  name : String
  /-- The type. -/
  type : TypeRef
  /-- The default value, if one is given. -/
  default? : Option Value
  /-- The directives, in order. -/
  directives : List Directive

/-- A field of an object or interface type. -/
structure FieldDefinition where
  /-- The description, if there is one. -/
  description? : Option Description
  /-- The name. -/
  name : String
  /-- The parameters, in order. -/
  parameters : List InputValue
  /-- The type. -/
  type : TypeRef
  /-- The directives, in order. -/
  directives : List Directive

/-- A value of an enum type. -/
structure EnumValueDefinition where
  /-- The description, if there is one. -/
  description? : Option Description
  /-- The symbol. -/
  name : String
  /-- The directives, in order. -/
  directives : List Directive

/-- The root type of one kind of operation. -/
structure RootType where
  /-- The kind of operation. -/
  kind : OperationKind
  /-- The name of the type. -/
  type : String
  deriving DecidableEq, Repr

/-- What a type definition or extension holds besides name and directives. -/
inductive TypeBody
  | scalar
  | object (interfaces : List String) (fields : List FieldDefinition)
  | interface (interfaces : List String) (fields : List FieldDefinition)
  | union (members : List String)
  | enum (values : List EnumValueDefinition)
  | input (fields : List InputValue)

namespace TypeBody

/-- The keyword that introduces a type with such a body. -/
def keyword : TypeBody → String
  | scalar => "scalar"
  | object .. => "type"
  | interface .. => "interface"
  | union _ => "union"
  | enum _ => "enum"
  | input _ => "input"

/-- The body holds nothing. -/
def isEmpty : TypeBody → Bool
  | scalar => true
  | object interfaces fields | interface interfaces fields => interfaces.isEmpty && fields.isEmpty
  | union members => members.isEmpty
  | enum values => values.isEmpty
  | input fields => fields.isEmpty

end TypeBody

/-- A named type, defined or extended. -/
structure TypeDefinition where
  /-- The name. -/
  name : String
  /-- The directives, in order. -/
  directives : List Directive
  /-- What the type holds. -/
  body : TypeBody

/-- The definition of a directive. -/
structure DirectiveDefinition where
  /-- The name without its sign. -/
  name : String
  /-- The parameters, in order. -/
  parameters : List InputValue
  /-- The directive may be applied more than once at a place. -/
  repeatable : Bool
  /-- The places where the directive may be applied. -/
  locations : List String

/-- The members of a document. -/
inductive Definition
  | operation (kind : OperationKind) (name? : Option String)
      (declared : List VariableDefinition) (directives : List Directive)
      (selections : List Selection)
  | fragment (name condition : String) (directives : List Directive)
      (selections : List Selection)
  | schema (description? : Option Description) (directives : List Directive)
      (roots : List RootType)
  | schemaExtension (directives : List Directive) (roots : List RootType)
  | type (description? : Option Description) (definition : TypeDefinition)
  | typeExtension (extension : TypeDefinition)
  | directive (description? : Option Description) (definition : DirectiveDefinition)

/-- A document: its definitions in order. -/
structure Document where
  /-- The definitions. -/
  definitions : List Definition

end Source
end GraphQL
