import GraphQL.Request.Writing

/-!
# Data as sent

Data is sent as JSON: numbers and texts as they are, decimal numbers, identifiers
and times as texts, an enum member as its value, every collection as a list or an
object.  Records and nodes are objects; whether the fields of a record that hold
null are sent is up to the sender.
-/

namespace GraphQL

/-- A JSON value.  Members of objects keep their order. -/
inductive JsonValue
  | null
  | bool (value : Bool)
  | int (value : Int)
  | float (value : Number.Binary64)
  | text (value : String)
  | list (items : List JsonValue)
  | object (members : List (String × JsonValue))

namespace JsonValue

mutual

/-- A JSON value as data. -/
def toDatum : JsonValue → Datum
  | null => .null
  | bool value => .bool value
  | int value => .int value
  | float value => .float value
  | text value => .text value
  | list items => .list (toData items)
  | object members => .dict (toEntries members)

/-- JSON values as data. -/
def toData : List JsonValue → List Datum
  | [] => []
  | item :: items => toDatum item :: toData items

/-- The members of an object as entries of a dictionary. -/
def toEntries : List (String × JsonValue) → List (Datum × Datum)
  | [] => []
  | (key, value) :: members => (.text key, toDatum value) :: toEntries members

end

/-- Members with a value put under a key: a key that is there keeps its place. -/
def insertMember (key : String) (value : JsonValue) :
    List (String × JsonValue) → List (String × JsonValue)
  | [] => [(key, value)]
  | entry :: members =>
    if entry.1 = key then (entry.1, value) :: members
    else entry :: insertMember key value members

/-- Members from members of which some may have one key. -/
def mergeMembers (members : List (String × JsonValue)) : List (String × JsonValue) :=
  members.foldl (fun merged entry => insertMember entry.1 entry.2 merged) []

end JsonValue

/-- Why data cannot be sent. -/
inductive SendFault
  /-- A thing that has no JSON form. -/
  | unknownThing (className : String)
  /-- Bytes that are no text. -/
  | notText (error : Text.Utf8.DecodeError)
  /-- A key that has no text. -/
  | badKey (kind : String)
  /-- A key whose text cannot be written. -/
  | unwritable (fault : Fault)

namespace SendFault

/-- What is said about data that cannot be sent. -/
def message : SendFault → String
  | unknownThing className => "Unable to serialize unknown type: <class '" ++ className ++ "'>"
  | notText error => Text.Utf8.DecodeError.describeByte error.byte error.position "invalid utf-8"
  | unwritable fault => fault.message
  | badKey kind => "\x60" ++ kind ++ "\x60 not valid as object key"

end SendFault

namespace Scalar

/-- The text that bytes are sent as. -/
def bytesSent (value : List UInt8) : Except SendFault String :=
  (Text.Utf8.decode value).mapError .notText

/-- A scalar as sent.  There is no JSON number for an infinite or undefined one. -/
def toJson : Scalar → Except SendFault JsonValue
  | bool value => .ok (.bool value)
  | int value => .ok (.int value)
  | float value => .ok (if value.isFinite then .float value else .null)
  | decimal value => .ok (.text value.text)
  | complex re im => .ok (.text (complexText re im Number.Binary64.positional))
  | text value => .ok (.text value)
  | bytes value => (bytesSent value).map .text
  | uuid value => .ok (.text value.text)
  | date value => .ok (.text value.text)
  | time value => .ok (.text value.sentText)
  | moment value => .ok (.text value.sentText)

/-- A scalar as the key of a member. -/
def toKey : Scalar → Except SendFault String
  | bool value => .ok (if value then "true" else "false")
  | int value => (Numeral.decimal value).mapError .unwritable
  | float value => .ok (if value.isFinite then value.text else "None")
  | decimal value => .ok value.text
  | complex re im => .ok (complexText re im Number.Binary64.positional)
  | text value => .ok value
  | bytes value => bytesSent value
  | uuid value => .ok value.text
  | date value => .ok value.text
  | time value => .ok value.sentText
  | moment value => .ok value.sentText

end Scalar

namespace Bare

/-- The full name of the class that a bare thing belongs to. -/
def fullName : Bare → String
  | foreign => "app.Opaque"
  | typeRef => "gql_builder.core.types.TypeRef"
  | value => "gql_builder.core.values.Value"
  | selection => "gql_builder.core.nodes.Selection"
  | definition => "gql_builder.core.operations.Definition"

end Bare

namespace Datum

mutual

/-- Data as the key of a member. -/
def toKey : Datum → Except SendFault String
  | null => .ok "None"
  | scalar value => value.toKey
  | member _ _ value _ => toKey value
  | tuple items => (toKeys items).map (Text.Lines.joinWith ",")
  | bare kind _ => .error (.unknownThing kind.fullName)
  | unset => .error (.unknownThing "gql_builder.core.variables._Unset")
  | list _ => .error (.badKey "list")
  | set _ => .error (.badKey "set")
  | dict _ => .error (.badKey "dict")
  | model .. => .error (.badKey "model")
  | node => node.shown.mapError .unwritable

/-- Data as the parts of the key of a member. -/
def toKeys : List Datum → Except SendFault (List String)
  | [] => .ok []
  | item :: items => do
    let key ← toKey item
    return key :: (← toKeys items)

end

/-- An optional name as sent. -/
def labelJson : Option Label → JsonValue
  | some label => .text label.text
  | none => .null

mutual

/-- Data as sent.  Fields of records that hold null are left out if `dropNulls`
says so. -/
def toJson (dropNulls : Bool) : Datum → Except SendFault JsonValue
  | null => .ok .null
  | unset => .error (.unknownThing "gql_builder.core.variables._Unset")
  | scalar value => value.toJson
  | bare kind _ => .error (.unknownThing kind.fullName)
  | member _ _ value _ => toJson dropNulls value
  | list items | tuple items | set items => (toJsonItems dropNulls items).map .list
  | dict entries =>
    (toJsonEntries dropNulls entries).map fun members => .object (JsonValue.mergeMembers members)
  | model _ fields =>
    (toJsonFields dropNulls fields).map fun members => .object (JsonValue.mergeMembers members)
  | namedType name => .ok (.object [("name", .text name.text)])
  | listType of | nonNullType of => do
    return .object [("of_type", ← toJson dropNulls of)]
  | nullValue => .ok (.object [])
  | booleanValue value | intValue value | floatValue value | stringValue value => do
    return .object [("value", ← toJson dropNulls value)]
  | enumValue symbol => .ok (.object [("value", .text symbol.text)])
  | listValue values => do
    return .object [("values", ← toJson dropNulls values)]
  | objectField name value | argument name value => do
    return .object [("name", .text name.text), ("value", ← toJson dropNulls value)]
  | objectValue fields => do
    return .object [("fields", ← toJson dropNulls fields)]
  | .variable name type default => do
    let type ← toJson dropNulls type
    return .object [("name", .text name.text), ("type", type),
      ("default", ← toJson dropNulls default)]
  | directive name arguments => do
    return .object [("name", .text name.text), ("arguments", ← toJson dropNulls arguments)]
  | field name alias? arguments directives selections => do
    let arguments ← toJson dropNulls arguments
    let directives ← toJson dropNulls directives
    return .object [("name", .text name.text), ("alias", labelJson alias?),
      ("arguments", arguments), ("directives", directives),
      ("selections", ← toJson dropNulls selections)]
  | fragmentSpread name directives => do
    return .object [("name", .text name.text), ("directives", ← toJson dropNulls directives)]
  | inlineFragment condition? directives selections => do
    let directives ← toJson dropNulls directives
    return .object [("type_condition", labelJson condition?), ("directives", directives),
      ("selections", ← toJson dropNulls selections)]
  | operation kind name? declared directives selections => do
    let kind ← toJson dropNulls kind
    let declared ← toJson dropNulls declared
    let directives ← toJson dropNulls directives
    return .object [("type", kind), ("name", labelJson name?), ("variables", declared),
      ("directives", directives), ("selections", ← toJson dropNulls selections)]
  | fragmentDefinition name condition directives selections => do
    let directives ← toJson dropNulls directives
    return .object [("name", .text name.text), ("type_condition", .text condition.text),
      ("directives", directives), ("selections", ← toJson dropNulls selections)]
  | printOptions indent compact => do
    let indent ← toJson dropNulls indent
    return .object [("indent", indent), ("compact", ← toJson dropNulls compact)]
  | document definitions => do
    return .object [("definitions", ← toJson dropNulls definitions)]

/-- Items as sent. -/
def toJsonItems (dropNulls : Bool) : List Datum → Except SendFault (List JsonValue)
  | [] => .ok []
  | item :: items => do
    let value ← toJson dropNulls item
    return value :: (← toJsonItems dropNulls items)

/-- The entries of a dictionary as members. -/
def toJsonEntries (dropNulls : Bool) :
    List (Datum × Datum) → Except SendFault (List (String × JsonValue))
  | [] => .ok []
  | (key, item) :: entries => do
    let key ← key.toKey
    let value ← toJson dropNulls item
    return (key, value) :: (← toJsonEntries dropNulls entries)

/-- The fields of a record as members. -/
def toJsonFields (dropNulls : Bool) :
    List (FieldName × Datum) → Except SendFault (List (String × JsonValue))
  | [] => .ok []
  | (label, item) :: fields =>
    if dropNulls && item.isNull then toJsonFields dropNulls fields
    else do
      let value ← toJson dropNulls item
      return (label.key, value) :: (← toJsonFields dropNulls fields)

end

end Datum
end GraphQL
