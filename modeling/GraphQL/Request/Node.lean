import GraphQL.Data.Equality
import GraphQL.Request.Writing
import GraphQL.Text.Name

/-!
# Nodes

The checked ways to make the nodes of a request.  Every name passes the gate for
names; no owner has two arguments, variables, input fields, operations or
fragments of one name; the default value of a variable is a constant.  What a
node is made of is otherwise kept as it is given.
-/

namespace GraphQL
namespace Node

open Text

/-! ## Names -/

/-- The name that data is, if the gate lets it through. -/
def checkName (kind : String) (given : Datum) : Except Fault Label :=
  match given.asLabel? with
  | some label => if Name.accepts label.text then .ok label else .error (.invalidName kind given)
  | none => .error (Fault.invalidName kind given).raised

/-- The optional name that data is. -/
def checkName? (kind : String) (given : Datum) : Except Fault (Option Label) :=
  match given with
  | .null => .ok none
  | given => (checkName kind given).map some

/-- Refuses items of which two have one name.  The names that have been seen are
`seen`. -/
def checkDistinct (kind owner : String) : List Datum → List Datum → Except Fault Unit
  | _, [] => .ok ()
  | seen, item :: items => do
    let name ← item.part "name"
    Key.check name
    if seen.any name.same then throw (.duplicateName kind name (← name.shown) owner)
    else checkDistinct kind owner (name :: seen) items

/-- Refuses a collection of which two items have one name. -/
def checkUnique (kind owner : String) (given : Datum) : Except Fault Unit := do
  checkDistinct kind owner [] (← given.elements)

/-! ## Types -/

/-- A reference to a type by name. -/
def namedType (name : Datum) : Except Fault Datum :=
  (checkName "type name" name).map .namedType

/-- The reference to a type that data stands for. -/
def asType (given : Datum) : Except Fault Datum :=
  match given with
  | .member .scalarType _ value _ => namedType value
  | given =>
    if given.isTypeRef then .ok given
    else if given.asText?.isSome then namedType given
    else .error (.typeWanted given.className)

/-! ## Values -/

/-- An enum symbol. -/
def enumValue (symbol : Datum) : Except Fault Datum := do
  let symbol ← checkName "enum value" symbol
  if Name.isReserved symbol.text then .error (.reservedSymbol symbol) else .ok (.enumValue symbol)

/-- A field of an object literal. -/
def objectField (name value : Datum) : Except Fault Datum :=
  (checkName "input field name" name).map (.objectField · value)

/-- An object literal. -/
def objectValue (fields : Datum) : Except Fault Datum := do
  checkUnique "input field" "input object" fields
  return .objectValue fields

mutual

/-- The value mentions a variable, or something that is no literal. -/
def containsVariable : Datum → Except Fault Bool
  | .listValue values => anyOf values
  | .objectValue fields => anyFieldOf fields
  | .nullValue | .booleanValue _ | .intValue _ | .floatValue _ | .stringValue _ | .enumValue _ =>
    .ok false
  | _ => .ok true

/-- Some value of a collection mentions a variable. -/
def anyOf : Datum → Except Fault Bool
  | .list items | .tuple items | .set items => anyItem items
  | .dict entries => anyKey entries
  | other => other.elements.map fun items => !items.isEmpty

/-- Some value of a list mentions a variable. -/
def anyItem : List Datum → Except Fault Bool
  | [] => .ok false
  | item :: items =>
    match containsVariable item with
    | .ok false => anyItem items
    | found => found

/-- Some value that is a key mentions a variable. -/
def anyKey : List (Datum × Datum) → Except Fault Bool
  | [] => .ok false
  | (item, _) :: entries =>
    match containsVariable item with
    | .ok false => anyKey entries
    | found => found

/-- Some field of a collection has a value that mentions a variable. -/
def anyFieldOf : Datum → Except Fault Bool
  | .list items | .tuple items | .set items => anyField items
  | .dict entries => anyKeyField entries
  | other => other.elements.map fun items => !items.isEmpty

/-- Some field of a list has a value that mentions a variable. -/
def anyField : List Datum → Except Fault Bool
  | [] => .ok false
  | item :: items =>
    match valueContains item with
    | .ok false => anyField items
    | found => found

/-- Some field that is a key has a value that mentions a variable. -/
def anyKeyField : List (Datum × Datum) → Except Fault Bool
  | [] => .ok false
  | (item, _) :: entries =>
    match valueContains item with
    | .ok false => anyKeyField entries
    | found => found

/-- The value of a field mentions a variable. -/
def valueContains : Datum → Except Fault Bool
  | .objectField _ value | .argument _ value | .member _ _ value _ => containsVariable value
  | .model _ fields => fieldContains fields
  | other => .error (.noPart other.fullName "value")

/-- The field of a record that is called its value mentions a variable. -/
def fieldContains : List (FieldName × Datum) → Except Fault Bool
  | [] => .error (.noPart "M" "value")
  | (label, value) :: fields =>
    if label.name = "value" then containsVariable value else fieldContains fields

end

/-- A variable, which is declared and referred to by the same node. -/
def declaration (name type default : Datum) : Except Fault Datum := do
  let name ← checkName "variable name" name
  match default with
  | .null => return .variable name type default
  | default =>
    if ← containsVariable default then .error (.variableInDefault name)
    else return .variable name type default

/-! ## Selections -/

/-- An argument. -/
def argument (name value : Datum) : Except Fault Datum :=
  (checkName "argument name" name).map (.argument · value)

/-- A directive. -/
def directive (name arguments : Datum) : Except Fault Datum := do
  let name ← checkName "directive name" name
  checkUnique "argument" ("directive @" ++ name.shown) arguments
  return .directive name arguments

/-- A field. -/
def field (name label arguments directives selections : Datum) : Except Fault Datum := do
  let name ← checkName "field name" name
  let alias? ← checkName? "alias" label
  checkUnique "argument" ("field '" ++ name.shown ++ "'") arguments
  return .field name alias? arguments directives selections

/-- A reference to a fragment. -/
def fragmentSpread (name directives : Datum) : Except Fault Datum :=
  (checkName "fragment name" name).map (.fragmentSpread · directives)

/-- A selection set under a type condition. -/
def inlineFragment (condition directives selections : Datum) : Except Fault Datum :=
  (checkName? "type condition" condition).map (.inlineFragment · directives selections)

/-! ## Definitions -/

/-- An operation.  One without a name is called by its kind. -/
def operation (kind name declared directives selections : Datum) : Except Fault Datum := do
  let name? ← checkName? "operation name" name
  let called ←
    match name? with
    | some name => pure name.shown
    | none => do (← kind.part "value").shown
  checkUnique "variable" ("operation '" ++ called ++ "'") declared
  return .operation kind name? declared directives selections

/-- A named selection set, which cannot be called `on`. -/
def fragmentDefinition (name condition directives selections : Datum) : Except Fault Datum := do
  let label ← checkName "fragment name" name
  if label.text = "on" then .error (.invalidName "fragment name" name)
  else
    let condition ← checkName "type condition" condition
    return .fragmentDefinition label condition directives selections

/-- A name that two definitions of one kind have. -/
def repeated (kind : String) (name : Label) : Fault :=
  .duplicateName kind (.ofLabel name) name.shown "document"

/-- Refuses definitions of which two operations or two fragments have one name.
The names that have been seen are `operations` and `fragments`. -/
def checkDefinitions (operations fragments : List String) : List Datum → Except Fault Unit
  | [] => .ok ()
  | .operation _ none _ _ _ :: rest => checkDefinitions operations fragments rest
  | .operation _ (some name) _ _ _ :: rest =>
    if operations.contains name.text then .error (repeated "operation" name)
    else checkDefinitions (name.text :: operations) fragments rest
  | .fragmentDefinition name _ _ _ :: rest =>
    if fragments.contains name.text then .error (repeated "fragment" name)
    else checkDefinitions operations (name.text :: fragments) rest
  | other :: _ => .error (.unexpectedDefinition other.className)

/-- A document. -/
def document (definitions : Datum) : Except Fault Datum := do
  checkDefinitions [] [] (← definitions.elements)
  return .document definitions

/-! ## Layout -/

/-- Choices for the layout of a request. -/
def printOptions (indent compact : Datum) : Except Fault Datum :=
  match indent, indent.part? "strip", indent.asText? with
  | .scalar (.bytes _), _, _ => .error .bytesLikeWanted
  | _, none, some text =>
    if text.toList.all isIndent then .ok (.printOptions indent compact)
    else .error .indentNotBlank
  | _, _, _ => .error (indent.cannot "strip")

end Node
end GraphQL
