import GraphQL.Source.Document
import GraphQL.Text.Block
import GraphQL.Text.Quoted

/-!
# Canonical text

The canonical text of a document spends a line on every selection and two
spaces on every level.  A field's arguments stand on one line unless the line
would be longer than eighty characters; parameters stand on one line unless one
of them needs several.
-/

namespace GraphQL
namespace Source

open Text

namespace Layout

/-- The longest line on which a field keeps its arguments together. -/
def widestLine : Nat := 80

/-- A text between two others, or nothing if it is empty. -/
def wrap (before text after : String) : String :=
  if text.isEmpty then "" else before ++ text ++ after

/-- The texts that are not empty, with a separator between neighbours. -/
def join (separator : String) (texts : List String) : String :=
  Lines.joinWith separator (texts.filter fun text => !text.isEmpty)

/-- A text moved two spaces to the right, line by line. -/
def indent (text : String) : String :=
  wrap "  " (String.ofList (Lines.indentRest [' ', ' '] text.toList)) ""

/-- Items in braces, each on lines of its own. -/
def block (texts : List String) : String :=
  wrap "\x7b\n" (indent (join "\n" texts)) "\n\x7d"

/-- Items in parentheses on one line. -/
def inParens (texts : List String) : String :=
  wrap "(" (join ", " texts) ")"

/-- Items in parentheses, each on lines of its own. -/
def inParensByLine (texts : List String) : String :=
  wrap "(\n" (indent (join "\n" texts)) "\n)"

/-- The text takes several lines. -/
def isMultiline (text : String) : Bool :=
  text.toList.contains '\n'

end Layout

open Layout

/-- The canonical text of a string. -/
def stringText (text : String) (block : Bool) : String :=
  if block then String.ofList (Block.literal text.toList) else Quoted.encodeCanonical text

namespace Value

mutual

/-- The canonical text of a value. -/
def print : Value → String
  | .variable name => "$" ++ name
  | .int text | .float text => text
  | .string text block => stringText text block
  | .boolean value => if value then "true" else "false"
  | .null => "null"
  | .enum symbol => symbol
  | .list items => "[" ++ join ", " (printItems items) ++ "]"
  | .object fields => "\x7b" ++ join ", " (printFields fields) ++ "\x7d"

/-- The canonical texts of values. -/
def printItems : List Value → List String
  | [] => []
  | item :: items => print item :: printItems items

/-- The canonical texts of the fields of an object. -/
def printFields : List (String × Value) → List String
  | [] => []
  | (name, value) :: fields => (name ++ ": " ++ print value) :: printFields fields

end

end Value

namespace TypeRef

/-- The canonical text of a reference to a type. -/
def print : TypeRef → String
  | .named name => name
  | .list of => "[" ++ of.print ++ "]"
  | .nonNull of => of.print ++ "!"

end TypeRef

namespace Argument

/-- The canonical text of an argument. -/
def print (argument : Argument) : String :=
  argument.name ++ ": " ++ argument.value.print

end Argument

namespace Directive

/-- The canonical text of a directive. -/
def print (directive : Directive) : String :=
  "@" ++ directive.name ++ inParens (directive.arguments.map Argument.print)

/-- The canonical text of directives. -/
def printAll (directives : List Directive) : String :=
  join " " (directives.map print)

end Directive

namespace Selection

/-- A field up to its arguments, which are broken into lines if they would make
the line too long. -/
def fieldHead (alias? : Option String) (name : String) (arguments : List Argument) : String :=
  let label :=
    match alias? with
    | some label => label ++ ": " ++ name
    | none => name
  let texts := arguments.map Argument.print
  let line := label ++ inParens texts
  if widestLine < line.length then label ++ inParensByLine texts else line

mutual

/-- The canonical text of a selection. -/
def print : Selection → String
  | .field alias? name arguments directives selections =>
    join " " [fieldHead alias? name arguments, Directive.printAll directives,
      block (printAll selections)]
  | .spread name directives => "..." ++ name ++ wrap " " (Directive.printAll directives) ""
  | .inlineFragment condition directives selections =>
    join " " ["...", wrap "on " (condition.getD "") "", Directive.printAll directives,
      block (printAll selections)]

/-- The canonical texts of selections. -/
def printAll : List Selection → List String
  | [] => []
  | selection :: selections => print selection :: printAll selections

end

end Selection

namespace VariableDefinition

/-- The canonical text of a variable's definition. -/
def print (definition : VariableDefinition) : String :=
  "$" ++ definition.name ++ ": " ++ definition.type.print ++
    wrap " = " ((definition.default?.map Value.print).getD "") "" ++
    wrap " " (Directive.printAll definition.directives) ""

end VariableDefinition

namespace Description

/-- A description on lines of its own, or nothing. -/
def printBefore : Option Description → String
  | some description => stringText description.text description.block ++ "\n"
  | none => ""

end Description

namespace InputValue

/-- The canonical text of a parameter or of a field of an input type. -/
def print (input : InputValue) : String :=
  Description.printBefore input.description? ++
    join " " [input.name ++ ": " ++ input.type.print,
      wrap "= " ((input.default?.map Value.print).getD "") "",
      Directive.printAll input.directives]

/-- The canonical text of parameters. -/
def printParameters (parameters : List InputValue) : String :=
  let texts := parameters.map print
  if texts.any isMultiline then inParensByLine texts else inParens texts

end InputValue

namespace FieldDefinition

/-- The canonical text of a field of an object or interface type. -/
def print (field : FieldDefinition) : String :=
  Description.printBefore field.description? ++ field.name ++
    InputValue.printParameters field.parameters ++ ": " ++ field.type.print ++
    wrap " " (Directive.printAll field.directives) ""

end FieldDefinition

namespace EnumValueDefinition

/-- The canonical text of a value of an enum type. -/
def print (value : EnumValueDefinition) : String :=
  Description.printBefore value.description? ++
    join " " [value.name, Directive.printAll value.directives]

end EnumValueDefinition

namespace RootType

/-- The canonical text of a root type. -/
def print (root : RootType) : String :=
  root.kind.text ++ ": " ++ root.type

end RootType

namespace TypeDefinition

/-- The interfaces of a type after their keyword. -/
def printInterfaces (interfaces : List String) : String :=
  wrap "implements " (join " & " interfaces) ""

/-- The canonical text of a named type after `introduction`, which ends with the
keyword. -/
def printAfter (introduction : String) (definition : TypeDefinition) : String :=
  let directives := Directive.printAll definition.directives
  join " " <| introduction :: definition.name ::
    match definition.body with
    | .scalar => [directives]
    | .object interfaces fields | .interface interfaces fields =>
      [printInterfaces interfaces, directives, block (fields.map FieldDefinition.print)]
    | .union members =>
      [directives, if members.isEmpty then "" else "= " ++ join " | " members]
    | .enum values => [directives, block (values.map EnumValueDefinition.print)]
    | .input fields => [directives, block (fields.map InputValue.print)]

end TypeDefinition

namespace DirectiveDefinition

/-- The canonical text of a directive's definition. -/
def print (directive : DirectiveDefinition) : String :=
  "directive @" ++ directive.name ++ InputValue.printParameters directive.parameters ++
    (if directive.repeatable then " repeatable" else "") ++ " on " ++
    join " | " directive.locations

end DirectiveDefinition

namespace Definition

/-- What stands before the selection set of an operation. -/
def operationHead (kind : OperationKind) (name? : Option String)
    (declared : List VariableDefinition) (directives : List Directive) : String :=
  join " " [kind.text,
    join "" [name?.getD "", inParens (declared.map VariableDefinition.print)],
    Directive.printAll directives]

/-- The canonical text of a definition.  A query with nothing before its
selection set is written without its keyword. -/
def print : Definition → String
  | .operation kind name? declared directives selections =>
    let head := operationHead kind name? declared directives
    (if head = "query" then "" else head ++ " ") ++ block (Selection.printAll selections)
  | .fragment name condition directives selections =>
    "fragment " ++ name ++ " on " ++ condition ++ " " ++
      wrap "" (Directive.printAll directives) " " ++ block (Selection.printAll selections)
  | .schema description? directives roots =>
    Description.printBefore description? ++
      join " " ["schema", Directive.printAll directives, block (roots.map RootType.print)]
  | .schemaExtension directives roots =>
    join " " ["extend schema", Directive.printAll directives, block (roots.map RootType.print)]
  | .type description? definition =>
    Description.printBefore description? ++ definition.printAfter definition.body.keyword
  | .typeExtension extension => extension.printAfter ("extend " ++ extension.body.keyword)
  | .directive description? definition =>
    Description.printBefore description? ++ definition.print

end Definition

namespace Document

/-- The canonical text of a document. -/
def print (document : Document) : String :=
  join "\n\n" (document.definitions.map Definition.print)

end Document
end Source
end GraphQL
