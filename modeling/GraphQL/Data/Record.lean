import GraphQL.Data.Equality

/-!
# Records as dictionaries

A record stands for the dictionary of its fields: each under the name it is sent
under, fields without a value left out.  Records and nodes inside a record become
dictionaries too, nodes with all of their parts, while a null in a plain
collection stays.  `unfold` replaces the records in some data in this way and
leaves nodes outside records alone.

A set cannot hold dictionaries, so a record with a set of nodes is not `expandable`;
`unfold` leaves it as it is.
-/

namespace GraphQL
namespace Datum

/-- Dictionary entries with a value put under a key: a key that is there keeps its
place. -/
def insertEntry (key value : Datum) : List (Datum × Datum) → List (Datum × Datum)
  | [] => [(key, value)]
  | entry :: entries =>
    if entry.1.same key then (entry.1, value) :: entries
    else entry :: insertEntry key value entries

/-- Dictionary entries from entries in which keys may be repeated. -/
def mergeEntries (entries : List (Datum × Datum)) : List (Datum × Datum) :=
  entries.foldl (fun merged entry => insertEntry entry.1 entry.2 merged) []

/-- A dictionary of named parts. -/
def ofParts (parts : List (String × Datum)) : Datum :=
  .dict (parts.map fun part => (.text part.1, part.2))

mutual

/-- Data inside a record, with records and nodes as dictionaries. -/
def expand : Datum → Datum
  | list items => .list (expandItems items)
  | tuple items => .tuple (expandItems items)
  | set items => .set (expandItems items)
  | dict entries => .dict (expandEntries entries)
  | model _ fields => .dict (mergeEntries (expandFields fields))
  | namedType name => ofParts [("name", ofLabel name)]
  | listType of | nonNullType of => ofParts [("of_type", expand of)]
  | nullValue => ofParts []
  | booleanValue value | intValue value | floatValue value | stringValue value =>
    ofParts [("value", expand value)]
  | enumValue symbol => ofParts [("value", ofLabel symbol)]
  | listValue values => ofParts [("values", expand values)]
  | objectField name value | argument name value =>
    ofParts [("name", ofLabel name), ("value", expand value)]
  | objectValue fields => ofParts [("fields", expand fields)]
  | .variable name type default =>
    ofParts [("name", ofLabel name), ("type", expand type), ("default", expand default)]
  | directive name arguments => ofParts [("name", ofLabel name), ("arguments", expand arguments)]
  | field name alias? arguments directives selections =>
    ofParts [("name", ofLabel name), ("alias", ofLabel? alias?), ("arguments", expand arguments),
      ("directives", expand directives), ("selections", expand selections)]
  | fragmentSpread name directives =>
    ofParts [("name", ofLabel name), ("directives", expand directives)]
  | inlineFragment condition? directives selections =>
    ofParts [("type_condition", ofLabel? condition?), ("directives", expand directives),
      ("selections", expand selections)]
  | operation kind name? declared directives selections =>
    ofParts [("type", expand kind), ("name", ofLabel? name?), ("variables", expand declared),
      ("directives", expand directives), ("selections", expand selections)]
  | fragmentDefinition name condition directives selections =>
    ofParts [("name", ofLabel name), ("type_condition", ofLabel condition),
      ("directives", expand directives), ("selections", expand selections)]
  | printOptions indent compact =>
    ofParts [("indent", expand indent), ("compact", expand compact)]
  | document definitions => ofParts [("definitions", expand definitions)]
  | null => .null
  | unset => .unset
  | scalar value => .scalar value
  | bare kind serial => .bare kind serial
  | member family name value others => .member family name value others

/-- Items inside a record. -/
def expandItems : List Datum → List Datum
  | [] => []
  | item :: items => expand item :: expandItems items

/-- Entries of a dictionary inside a record. -/
def expandEntries : List (Datum × Datum) → List (Datum × Datum)
  | [] => []
  | (key, value) :: entries => (key, expand value) :: expandEntries entries

/-- The fields of a record that have a value, under the names they are sent
under. -/
def expandFields : List (FieldName × Datum) → List (Datum × Datum)
  | [] => []
  | (label, value) :: fields =>
    if value.isNull then expandFields fields
    else (.text label.key, expand value) :: expandFields fields

end

/-! ## What cannot be expanded -/

mutual

/-- The data becomes a dictionary inside a record, or a tuple that holds one. -/
def becomesDict : Datum → Bool
  | namedType _ | listType _ | nonNullType _ | nullValue | booleanValue _ | intValue _
  | floatValue _ | stringValue _ | enumValue _ | listValue _ | objectField .. | objectValue _
  | .variable .. | argument .. | directive .. | field .. | fragmentSpread .. | inlineFragment ..
  | operation .. | fragmentDefinition .. | printOptions .. | document _ => true
  | tuple items => someBecomesDict items
  | _ => false

/-- Some item becomes a dictionary inside a record. -/
def someBecomesDict : List Datum → Bool
  | [] => false
  | item :: items => becomesDict item || someBecomesDict items

end

mutual

/-- The data can stand in a record: no set in it would come to hold a dictionary. -/
def expandable : Datum → Bool
  | set items => !someBecomesDict items
  | list items | tuple items => allExpandable items
  | dict entries => entriesExpandable entries
  | model _ fields => fieldsExpandable fields
  | listType part | nonNullType part | booleanValue part | intValue part | floatValue part
  | stringValue part | listValue part | objectField _ part | objectValue part
  | argument _ part | directive _ part | fragmentSpread _ part | document part => expandable part
  | .variable _ type default => expandable type && expandable default
  | field _ _ arguments directives selections =>
    expandable arguments && expandable directives && expandable selections
  | inlineFragment _ directives selections | fragmentDefinition _ _ directives selections =>
    expandable directives && expandable selections
  | operation kind _ declared directives selections =>
    expandable kind && expandable declared && expandable directives && expandable selections
  | printOptions indent compact => expandable indent && expandable compact
  | _ => true

/-- All items can stand in a record. -/
def allExpandable : List Datum → Bool
  | [] => true
  | item :: items => expandable item && allExpandable items

/-- All values of entries can stand in a record. -/
def entriesExpandable : List (Datum × Datum) → Bool
  | [] => true
  | (_, value) :: entries => expandable value && entriesExpandable entries

/-- All values of fields can stand in a record. -/
def fieldsExpandable : List (FieldName × Datum) → Bool
  | [] => true
  | (_, value) :: fields => (value.isNull || expandable value) && fieldsExpandable fields

end

mutual

/-- Data with the records in it, at any depth of plain collections, as
dictionaries. -/
def unfold : Datum → Datum
  | list items => .list (unfoldItems items)
  | tuple items => .tuple (unfoldItems items)
  | dict entries => .dict (unfoldEntries entries)
  | model serial fields =>
    if fieldsExpandable fields then expand (.model serial fields) else .model serial fields
  | datum => datum

/-- Items with the records in them as dictionaries. -/
def unfoldItems : List Datum → List Datum
  | [] => []
  | item :: items => unfold item :: unfoldItems items

/-- Entries with the records in their values as dictionaries. -/
def unfoldEntries : List (Datum × Datum) → List (Datum × Datum)
  | [] => []
  | (key, value) :: entries => (key, unfold value) :: unfoldEntries entries

end

end Datum
end GraphQL
