import GraphQL.Source.Document

/-!
# Requests as written

A request as it is going to stand in a text: numbers are numerals, every name is
the text that is put at its place, a variable inside a value is a reference.  All
that is left to decide is the layout.

Source text has more forms than requests and is stricter than them.  A group in
brackets that is left out is `none` here, and one that is written although it holds
nothing is an empty list.
-/

namespace GraphQL
namespace Written

/-- A value as it is written. -/
inductive Value
  | variable (name : String)
  | int (numeral : String)
  | float (numeral : String)
  /-- A string literal by its text. -/
  | string (text : String)
  /-- A string literal whose characters are spelled out already. -/
  | spelled (literal : String)
  | boolean (value : Bool)
  | null
  | enum (symbol : String)
  | list (items : List Value)
  | object (fields : List (String × Value))

/-- A directive as it is written. -/
structure Directive where
  /-- The name after the sign. -/
  name : String
  /-- The arguments, if they are written. -/
  arguments? : Option (List (String × Value))

/-- A selection as it is written. -/
inductive Selection
  | field (alias? : Option String) (name : String) (arguments? : Option (List (String × Value)))
      (directives : List Directive) (selections? : Option (List Selection))
  | spread (name : String) (directives : List Directive)
  | inlineFragment (condition? : Option String) (directives : List Directive)
      (selections? : Option (List Selection))

/-- The declaration of a variable as it is written. -/
structure VariableDefinition where
  /-- The name after the sign. -/
  name : String
  /-- The declared type. -/
  type : Source.TypeRef
  /-- The default value, if there is one. -/
  default? : Option Value

/-- A definition as it is written.  The keyword of an operation is whatever text its
kind has for a value; a kind whose value is a list is shown as a list of all that
stands before the selections. -/
inductive Definition
  | operation (keyword : String) (name? : Option String)
      (declared? : Option (List VariableDefinition)) (directives : List Directive)
      (selections? : Option (List Selection))
  | listed (head : String) (selections? : Option (List Selection))
  | fragment (name condition : String) (directives : List Directive)
      (selections? : Option (List Selection))

end Written
end GraphQL
