import GraphQL.Data.Naming
import GraphQL.Number.Binary64
import GraphQL.Number.Calendar
import GraphQL.Number.Uuid

/-!
# Data

A request is built from data that callers hand in: numbers, texts, times,
collections, enum members, records of named fields, and the nodes of requests
that have been built already.  Any of them may turn up in any place, and which
ones are welcome there is decided when something is done with them.  So there is
one type for all.

A node is the data it was made from.  Its names have passed the gate for names;
its other parts can be any data, because a node can also be made part by part.  A
name is a text or an enum member that counts as one, and a member is written
differently depending on the place where the name stands.
-/

namespace GraphQL

open Number

/-- Data without parts. -/
inductive Scalar
  | bool (value : Bool)
  | int (value : Int)
  | float (value : Binary64)
  | decimal (value : Decimal)
  | complex (re im : Binary64)
  | text (value : String)
  | bytes (value : List UInt8)
  | uuid (value : Uuid)
  | date (value : Date)
  | time (value : Time)
  | moment (value : Moment)
  deriving DecidableEq, Repr

/-- Things that are only told apart by identity: a thing foreign to requests,
and nodes of no particular kind. -/
inductive Bare
  | foreign
  | typeRef
  | value
  | selection
  | definition
  deriving DecidableEq, Repr

/-- What the members of an enum count as besides members. -/
inductive Mixin
  | plain
  | text
  | int
  deriving DecidableEq, Repr

/-- The enums: two that belong to requests, and those of callers, who may declare
any number of them. -/
inductive Family
  | operationType
  | scalarType
  | custom (mixin : Mixin) (serial : Nat)
  deriving DecidableEq, Repr

namespace Family

/-- The name of an enum. -/
def name : Family → String
  | operationType => "OperationType"
  | scalarType => "ScalarType"
  | custom .. => "E"

/-- What the members of an enum count as. -/
def mixin : Family → Mixin
  | custom mixin _ => mixin
  | _ => .plain

end Family

/-- A name of a node: a text, or an enum member that counts as one. -/
structure Label where
  /-- The text of the name. -/
  text : String
  /-- The member that the name is, if it is one: its enum and its name there. -/
  member? : Option (Family × String)
  deriving DecidableEq, Repr

namespace Label

/-- A text as a name. -/
def plain (text : String) : Label := ⟨text, none⟩

/-- A name as it is put into a running text, where a member is shown as such. -/
def shown (label : Label) : String :=
  match label.member? with
  | some (family, name) => family.name ++ "." ++ name
  | none => label.text

@[simp] theorem shown_plain (text : String) : (plain text).shown = text := rfl

end Label

/-- The name of a field of a record, and the name it is sent under. -/
structure FieldName where
  /-- The name of the field. -/
  name : String
  /-- The name it is sent under, if that is another. -/
  alias? : Option String
  deriving DecidableEq, Repr

namespace FieldName

/-- The name that a field is sent under. -/
def key (field : FieldName) : String :=
  match field.alias? with
  | some label => label
  | none => field.name

end FieldName

/-- Any data that takes part in building a request. -/
inductive Datum
  /-- The absence of a value. -/
  | null
  /-- The mark that no default is given. -/
  | unset
  /-- Data without parts. -/
  | scalar (value : Scalar)
  /-- A thing known by its identity. -/
  | bare (kind : Bare) (serial : Nat)
  /-- A member of an enum, with the members that go by other names there. -/
  | member (family : Family) (name : String) (value : Datum) (others : List (String × Datum))
  /-- A list. -/
  | list (items : List Datum)
  /-- A tuple. -/
  | tuple (items : List Datum)
  /-- A set. -/
  | set (items : List Datum)
  /-- A dictionary, in the order of its keys. -/
  | dict (entries : List (Datum × Datum))
  /-- A record of a caller's class, known by its identity. -/
  | model (serial : Nat) (fields : List (FieldName × Datum))
  /-- A reference to a type by name. -/
  | namedType (name : Label)
  /-- A reference to lists of a type. -/
  | listType (of : Datum)
  /-- A reference to a type without null. -/
  | nonNullType (of : Datum)
  /-- The null literal. -/
  | nullValue
  /-- A truth literal. -/
  | booleanValue (value : Datum)
  /-- A whole number literal. -/
  | intValue (value : Datum)
  /-- A literal number with a fraction or an exponent. -/
  | floatValue (value : Datum)
  /-- A string literal. -/
  | stringValue (value : Datum)
  /-- An enum symbol. -/
  | enumValue (symbol : Label)
  /-- A list literal. -/
  | listValue (values : Datum)
  /-- A field of an object literal. -/
  | objectField (name : Label) (value : Datum)
  /-- An object literal. -/
  | objectValue (fields : Datum)
  /-- A variable: its declaration, and a reference to it. -/
  | variable (name : Label) (type default : Datum)
  /-- An argument of a field or directive. -/
  | argument (name : Label) (value : Datum)
  /-- A directive as applied. -/
  | directive (name : Label) (arguments : Datum)
  /-- A field of a selection set. -/
  | field (name : Label) (alias? : Option Label) (arguments directives selections : Datum)
  /-- A reference to a fragment in a selection set. -/
  | fragmentSpread (name : Label) (directives : Datum)
  /-- A selection set under a type condition. -/
  | inlineFragment (condition? : Option Label) (directives selections : Datum)
  /-- An operation. -/
  | operation (kind : Datum) (name? : Option Label) (declared directives selections : Datum)
  /-- A named selection set. -/
  | fragmentDefinition (name condition : Label) (directives selections : Datum)
  /-- Choices for the layout of a request. -/
  | printOptions (indent compact : Datum)
  /-- A request document. -/
  | document (definitions : Datum)

namespace Datum

/-- A truth value. -/
@[match_pattern] abbrev bool (value : Bool) : Datum := .scalar (.bool value)

/-- A whole number. -/
@[match_pattern] abbrev int (value : Int) : Datum := .scalar (.int value)

/-- A binary number. -/
@[match_pattern] abbrev float (value : Binary64) : Datum := .scalar (.float value)

/-- A decimal number. -/
@[match_pattern] abbrev decimal (value : Decimal) : Datum := .scalar (.decimal value)

/-- A text. -/
@[match_pattern] abbrev text (value : String) : Datum := .scalar (.text value)

/-- The kind of query operations. -/
def query : Datum := .member .operationType "QUERY" (.text "query") []

/-- The kind of mutation operations. -/
def mutation : Datum := .member .operationType "MUTATION" (.text "mutation") []

/-- The kind of subscription operations. -/
def subscription : Datum := .member .operationType "SUBSCRIPTION" (.text "subscription") []

/-- A name as data. -/
def ofLabel (label : Label) : Datum :=
  match label.member? with
  | some (family, name) => .member family name (.text label.text) []
  | none => .text label.text

/-- An optional name as data. -/
def ofLabel? : Option Label → Datum
  | some label => ofLabel label
  | none => .null

@[simp] theorem ofLabel_plain (text : String) : ofLabel (.plain text) = .text text := rfl

/-- The data is null. -/
def isNull : Datum → Bool
  | null => true
  | _ => false

/-! ## Classes of data -/

/-- The data is a literal or a variable. -/
def isValue : Datum → Bool
  | bare .value _ | nullValue | booleanValue _ | intValue _ | floatValue _ | stringValue _
  | enumValue _ | listValue _ | objectValue _ | .variable .. => true
  | _ => false

/-- The data is a reference to a type. -/
def isTypeRef : Datum → Bool
  | bare .typeRef _ | namedType _ | listType _ | nonNullType _ => true
  | _ => false

/-- The data may stand in a selection set. -/
def isSelection : Datum → Bool
  | bare .selection _ | field .. | fragmentSpread .. | inlineFragment .. => true
  | _ => false

/-- The data is a variable. -/
def isVariable : Datum → Bool
  | .variable .. => true
  | _ => false

/-- The data is an argument. -/
def isArgument : Datum → Bool
  | argument .. => true
  | _ => false

/-- The data is a directive. -/
def isDirective : Datum → Bool
  | directive .. => true
  | _ => false

/-- The data is an operation. -/
def isOperation : Datum → Bool
  | operation .. => true
  | _ => false

/-- The data is a fragment definition. -/
def isFragment : Datum → Bool
  | fragmentDefinition .. => true
  | _ => false

/-- The text that data counts as, if it counts as a text. -/
def asText? : Datum → Option String
  | text value => some value
  | member family _ (text value) _ => if family.mixin = .text then some value else none
  | _ => none

/-- The name that data can be, if it counts as a text. -/
def asLabel? : Datum → Option Label
  | text value => some (.plain value)
  | member family name (text value) _ =>
    if family.mixin = .text then some ⟨value, some (family, name)⟩ else none
  | _ => none

/-- The whole number that data counts as, if it counts as one. -/
def asInt? : Datum → Option Int
  | int value => some value
  | bool value => some (if value then 1 else 0)
  | member family _ (int value) _ => if family.mixin = .int then some value else none
  | _ => none

/-- The name of the class that data belongs to. -/
def className : Datum → String
  | null => "NoneType"
  | unset => "_Unset"
  | scalar (.bool _) => "bool"
  | scalar (.int _) => "int"
  | scalar (.float _) => "float"
  | scalar (.decimal _) => "Decimal"
  | scalar (.complex ..) => "complex"
  | scalar (.text _) => "str"
  | scalar (.bytes _) => "bytes"
  | scalar (.uuid _) => "UUID"
  | scalar (.date _) => "date"
  | scalar (.time _) => "time"
  | scalar (.moment _) => "datetime"
  | bare .foreign _ => "Opaque"
  | bare .typeRef _ => "TypeRef"
  | bare .value _ => "Value"
  | bare .selection _ => "Selection"
  | bare .definition _ => "Definition"
  | member family .. => family.name
  | list _ => "list"
  | tuple _ => "tuple"
  | set _ => "set"
  | dict _ => "dict"
  | model .. => "M"
  | namedType _ => "NamedType"
  | listType _ => "ListType"
  | nonNullType _ => "NonNullType"
  | nullValue => "NullValue"
  | booleanValue _ => "BooleanValue"
  | intValue _ => "IntValue"
  | floatValue _ => "FloatValue"
  | stringValue _ => "StringValue"
  | enumValue _ => "EnumValue"
  | listValue _ => "ListValue"
  | objectField .. => "ObjectField"
  | objectValue _ => "ObjectValue"
  | .variable .. => "Variable"
  | argument .. => "Argument"
  | directive .. => "Directive"
  | field .. => "Field"
  | fragmentSpread .. => "FragmentSpread"
  | inlineFragment .. => "InlineFragment"
  | operation .. => "Operation"
  | fragmentDefinition .. => "FragmentDefinition"
  | printOptions .. => "PrintOptions"
  | document _ => "Document"

/-- The full name of the class that data belongs to, which says where classes of
numbers and times are from. -/
def fullName : Datum → String
  | scalar (.decimal _) => "decimal.Decimal"
  | scalar (.date _) => "datetime.date"
  | scalar (.time _) => "datetime.time"
  | scalar (.moment _) => "datetime.datetime"
  | datum => datum.className

/-! ## Parts -/

/-- Fields of a record with one more: one of the same name keeps its place. -/
def insertField (field : FieldName) (value : Datum) :
    List (FieldName × Datum) → List (FieldName × Datum)
  | [] => [(field, value)]
  | entry :: fields =>
    if entry.1.name = field.name then (field, value) :: fields
    else entry :: insertField field value fields

/-- A record with given fields, of which the last of each name counts and none is
hidden. -/
def ofFields (serial : Nat) (fields : List (FieldName × Datum)) : Except NamingFault Datum :=
  (Naming.checkModel (fields.map fun field => field.1.name)).map fun _ =>
    .model serial (fields.foldl (fun merged field => insertField field.1 field.2 merged) [])

/-- What going through some data yields one by one, if it can be gone through. -/
def elements? : Datum → Option (List Datum)
  | list items | tuple items | set items => some items
  | dict entries => some (entries.map (·.1))
  | scalar (.text value) => some (value.toList.map fun c => .text (String.singleton c))
  | scalar (.bytes value) => some (value.map fun b => .int b.toNat)
  | member family _ (.scalar (.text value)) _ =>
    if family.mixin = .text then some (value.toList.map fun c => .text (String.singleton c))
    else none
  | model _ fields => some (fields.map fun field => .tuple [.text field.1.name, field.2])
  | _ => none

/-- The parts of a node with their names, in the order of declaration. -/
def parts : Datum → List (String × Datum)
  | namedType name => [("name", ofLabel name)]
  | listType of | nonNullType of => [("of_type", of)]
  | booleanValue value | intValue value | floatValue value | stringValue value =>
    [("value", value)]
  | enumValue symbol => [("value", ofLabel symbol)]
  | listValue values => [("values", values)]
  | objectField name value | argument name value => [("name", ofLabel name), ("value", value)]
  | objectValue fields => [("fields", fields)]
  | .variable name type default =>
    [("name", ofLabel name), ("type", type), ("default", default)]
  | directive name arguments => [("name", ofLabel name), ("arguments", arguments)]
  | field name alias? arguments directives selections =>
    [("name", ofLabel name), ("alias", ofLabel? alias?), ("arguments", arguments),
      ("directives", directives), ("selections", selections)]
  | fragmentSpread name directives => [("name", ofLabel name), ("directives", directives)]
  | inlineFragment condition? directives selections =>
    [("type_condition", ofLabel? condition?), ("directives", directives),
      ("selections", selections)]
  | operation kind name? declared directives selections =>
    [("type", kind), ("name", ofLabel? name?), ("variables", declared),
      ("directives", directives), ("selections", selections)]
  | fragmentDefinition name condition directives selections =>
    [("name", ofLabel name), ("type_condition", ofLabel condition), ("directives", directives),
      ("selections", selections)]
  | printOptions indent compact => [("indent", indent), ("compact", compact)]
  | document definitions => [("definitions", definitions)]
  | _ => []

/-- The data that going through other data yields, as far as it is of a kind. -/
def ofKind (kind : Datum → Bool) (given : Datum) : Datum :=
  .list ((given.elements?.getD []).filter kind)

/-- What can be asked of data besides its parts: the name that a field answers under,
whether a variable has a default value, the operations and fragments of a document,
the fields of an identifier. -/
def features : Datum → List (String × Datum)
  | field name alias? _ _ _ => [("response_key", ofLabel (alias?.getD name))]
  | .variable _ _ default => [("has_default", .bool !default.isNull)]
  | document definitions =>
    [("operations", ofKind isOperation definitions), ("fragments", ofKind isFragment definitions)]
  | scalar (.uuid value) => [("fields", .tuple (value.fields.map fun n => .int (n : Nat)))]
  | _ => []

/-- The part of some data that has a name: a part or feature of a node, the name or
value of an enum member, another member of its enum, or a field of a record. -/
def part? (name : String) : Datum → Option Datum
  | member _ symbol value others =>
    if name = "name" then some (.text symbol)
    else if name = "value" then some value
    else (others.find? fun other => other.1 = name).map (·.2)
  | model _ fields => (fields.find? fun field => field.1.name = name).map (·.2)
  | datum => ((datum.parts ++ datum.features).find? fun part => part.1 = name).map (·.2)

/-- The data counts as true. -/
def truthy : Datum → Bool
  | null => false
  | scalar (.bool value) => value
  | scalar (.int value) => value ≠ 0
  | scalar (.float value) => !value.isZero
  | scalar (.decimal value) => !value.isZero
  | scalar (.complex re im) => !re.isZero || !im.isZero
  | scalar (.text value) => value ≠ ""
  | scalar (.bytes value) => !value.isEmpty
  | list items | tuple items | set items => !items.isEmpty
  | dict entries => !entries.isEmpty
  | member family _ value _ =>
    match family.mixin, value with
    | .int, int n => n ≠ 0
    | .text, text s => s ≠ ""
    | _, _ => true
  | _ => true

end Datum
end GraphQL
