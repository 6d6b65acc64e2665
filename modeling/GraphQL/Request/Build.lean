import GraphQL.Request.Literal

/-!
# Building requests

The ways to put a request together.  Values are given as plain data; the children
of a node are given as items in any order, alone or grouped in lists and tuples,
and are sorted by kind.
-/

namespace GraphQL
namespace Build

/-! ## Types and values -/

/-- A reference to lists of a type. -/
def listOf (type : Datum) : Except Fault Datum :=
  (Node.asType type).map .listType

/-- A reference to a type without null. -/
def nonNull (type : Datum) : Except Fault Datum :=
  (Node.asType type).map .nonNullType

/-- A variable with a type and a default value, unless that is unset. -/
def declare (name type default : Datum) : Except Fault Datum := do
  let default ←
    match default with
    | .unset => pure .null
    | given => given.toValue
  Node.declaration name (← Node.asType type) default

/-- Variables as one group. -/
def declarations (items : List Datum) : Except Fault Datum :=
  match items.find? fun item => !item.isVariable with
  | some item => .error (.variableWanted item.className)
  | none => .ok (.tuple items)

/-- A field of an object literal. -/
def property (name value : Datum) : Except Fault Datum := do
  Node.objectField name (← value.toValue)

/-- An object literal. -/
def inputObject (fields : List Datum) : Except Fault Datum :=
  Node.objectValue (.tuple fields)

/-- The values that items stand for. -/
def values (items : List Datum) : Except Fault (List Datum) :=
  items.mapM Datum.toValue

/-- A list literal. -/
def listValue (items : List Datum) : Except Fault Datum :=
  (values items).map fun values => .listValue (.tuple values)

/-! ## Items -/

mutual

/-- The leaves of an item: itself, unless it is a list or a tuple. -/
def leaves : Datum → List Datum
  | .list items | .tuple items => flatten items
  | item => [item]

/-- The leaves of items, from left to right. -/
def flatten : List Datum → List Datum
  | [] => []
  | item :: items => leaves item ++ flatten items

end

@[simp] theorem flatten_nil : flatten [] = [] := by
  simp [flatten]

@[simp] theorem flatten_cons (item : Datum) (items : List Datum) :
    flatten (item :: items) = leaves item ++ flatten items := by
  simp [flatten]

/-- The kinds that items are sorted by. -/
inductive ItemKind
  | argument
  | variable
  | directive
  | selection
  deriving DecidableEq, Repr

namespace ItemKind

/-- The name of a kind in messages. -/
def text : ItemKind → String
  | argument => "Argument"
  | .variable => "Variable"
  | directive => "Directive"
  | selection => "Selection"

/-- The item is of the kind. -/
def includes : ItemKind → Datum → Bool
  | argument => Datum.isArgument
  | .variable => Datum.isVariable
  | directive => Datum.isDirective
  | selection => Datum.isSelection

end ItemKind

/-- Items sorted by kind. -/
structure Sorted where
  /-- The leaves of the items, all of accepted kinds. -/
  items : List Datum

namespace Sorted

/-- The items of a kind, in their order. -/
def of (sorted : Sorted) (kind : ItemKind) : Datum :=
  .tuple (sorted.items.filter kind.includes)

end Sorted

/-- Sorts items, of which every leaf has to be of an accepted kind. -/
def sort (accepted : List ItemKind) (items : List Datum) : Except Fault Sorted :=
  let all := flatten items
  match all.find? fun item => !accepted.any fun kind => kind.includes item with
  | some item => .error (.unexpectedItem item.className (accepted.map ItemKind.text))
  | none => .ok ⟨all⟩

/-! ## Selections -/

/-- An argument. -/
def argument (name value : Datum) : Except Fault Datum := do
  Node.argument name (← value.toValue)

/-- A directive with its arguments. -/
def directive (name : Datum) (items : List Datum) : Except Fault Datum :=
  Node.directive name (.tuple (flatten items))

/-- A directive with a condition. -/
def conditional (name : String) (condition : Datum) : Except Fault Datum := do
  directive (.text name) [← argument (.text "if") condition]

/-- A field with its arguments, directives and selections. -/
def field (name : Datum) (items : List Datum) (label : Datum) : Except Fault Datum := do
  let sorted ← sort [.argument, .directive, .selection] items
  Node.field name label (sorted.of .argument) (sorted.of .directive) (sorted.of .selection)

/-- A reference to a fragment, given by name or as something that has one. -/
def fragmentSpread (fragment : Datum) (items : List Datum) : Except Fault Datum := do
  let name ← if fragment.asText?.isSome then pure fragment else fragment.part "name"
  Node.fragmentSpread name (.tuple (flatten items))

/-- A selection set under a type condition. -/
def inlineFragment (condition : Datum) (items : List Datum) : Except Fault Datum := do
  let sorted ← sort [.directive, .selection] items
  Node.inlineFragment condition (sorted.of .directive) (sorted.of .selection)

/-! ## Definitions -/

/-- The kind of operation that data stands for; only texts are checked. -/
def operationKind (given : Datum) : Except Fault Datum :=
  match given.asText? with
  | none => .ok given
  | some "query" => .ok Datum.query
  | some "mutation" => .ok Datum.mutation
  | some "subscription" => .ok Datum.subscription
  | some _ => .error (.unknownOperationKind given)

/-- The name of an operation and its other items: a name is given on its own or
as the first item, but not as both. -/
def operationName (name : Datum) (items : List Datum) : Except Fault (Datum × List Datum) :=
  match items with
  | first :: rest =>
    if first.asText?.isNone then .ok (name, items)
    else if name.isNull then .ok (first, rest)
    else .error .nameGivenTwice
  | [] => .ok (name, items)

/-- An operation with its variables, directives and selections. -/
def operation (kind : Datum) (items : List Datum) (name : Datum) : Except Fault Datum := do
  let kind ← operationKind kind
  let (name, items) ← operationName name items
  let sorted ← sort [.variable, .directive, .selection] items
  Node.operation kind name (sorted.of .variable) (sorted.of .directive) (sorted.of .selection)

/-- A named selection set. -/
def fragment (name condition : Datum) (items : List Datum) : Except Fault Datum := do
  let sorted ← sort [.directive, .selection] items
  Node.fragmentDefinition name condition (sorted.of .directive) (sorted.of .selection)

/-- A document with its definitions. -/
def document (items : List Datum) : Except Fault Datum :=
  Node.document (.tuple (flatten items))

end Build
end GraphQL
