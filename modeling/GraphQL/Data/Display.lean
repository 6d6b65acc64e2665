import GraphQL.Data.Datum
import GraphQL.Number.Whole
import GraphQL.Text.Display
import GraphQL.Text.Lines

/-!
# Data as shown in messages

`display` shows data so that its class can be told.  A scalar can also be `shown` as
it is put into a running text, where a text stands for itself.  Nothing can be shown in
which a whole number has more digits than are written.
-/

namespace GraphQL

open Text (Lines.joinWith)
open Number (Binary64)

namespace Scalar

/-- The text of a complex number with given texts of its parts.  A real part of zero
is left out. -/
def complexText (re im : Binary64) (text : Binary64 → String) : String :=
  let imaginary := text im ++ "j"
  if re.isZero then imaginary
  else text re ++ (if im.negative then "" else "+") ++ imaginary

/-- A complex number, with parentheses around two parts. -/
def displayComplex (re im : Binary64) : String :=
  let text := complexText re im Binary64.shortText
  if re.isZero then text else "(" ++ text ++ ")"

/-- A scalar as shown in messages. -/
def display : Scalar → String
  | bool value => if value then "True" else "False"
  | int value => toString value
  | float value => value.text
  | decimal value => "Decimal('" ++ value.text ++ "')"
  | complex re im => displayComplex re im
  | text value => Text.Display.text value
  | bytes value => Text.Display.bytes value
  | uuid value => value.display
  | date value => value.display
  | time value => value.display
  | moment value => value.display

/-- The scalar is a whole number of more digits than are written. -/
def showsLong : Scalar → Bool
  | int value => Number.Whole.isLong value
  | _ => false

/-- A scalar as put into a running text. -/
def shown : Scalar → String
  | decimal value => value.text
  | text value => value
  | uuid value => value.text
  | date value => value.text
  | time value => value.text
  | moment value => value.date.text ++ " " ++ value.time.text
  | value => value.display

end Scalar

namespace Datum

/-- A tuple of shown items. -/
def tupleText : List String → String
  | [item] => "(" ++ item ++ ",)"
  | items => "(" ++ Lines.joinWith ", " items ++ ")"

/-- A node or record with its shown parts. -/
def recordText (name : String) (parts : List String) : String :=
  name ++ "(" ++ Lines.joinWith ", " parts ++ ")"

/-- A shown part with its name. -/
def partText (name shown : String) : String :=
  name ++ "=" ++ shown

/-- A member of an enum with its shown value. -/
def memberText (family : Family) (name shown : String) : String :=
  "<" ++ family.name ++ "." ++ name ++ ": " ++ shown ++ ">"

/-- A name as shown in messages. -/
def labelText (label : Label) : String :=
  match label.member? with
  | some (family, name) => memberText family name (Text.Display.text label.text)
  | none => Text.Display.text label.text

/-- An optional name as shown in messages. -/
def labelText? : Option Label → String
  | some label => labelText label
  | none => "None"

mutual

/-- Data as shown in messages. -/
def display : Datum → String
  | null => "None"
  | unset => "UNSET"
  | scalar value => value.display
  | bare .foreign _ => "<opaque>"
  | bare .typeRef _ => "<TypeRef>"
  | bare .value _ => "<Value>"
  | bare .selection _ => "<Selection>"
  | bare .definition _ => "<Definition>"
  | member family name value _ =>
    memberText family name (display value)
  | list items => "[" ++ Lines.joinWith ", " (displayItems items) ++ "]"
  | tuple items => tupleText (displayItems items)
  | set [] => "set()"
  | set items => "\x7b" ++ Lines.joinWith ", " (displayItems items) ++ "\x7d"
  | dict entries => "\x7b" ++ Lines.joinWith ", " (displayEntries entries) ++ "\x7d"
  | model _ fields => recordText "M" (displayFields fields)
  | namedType name => recordText "NamedType" [partText "name" (labelText name)]
  | listType of => recordText "ListType" [partText "of_type" (display of)]
  | nonNullType of => recordText "NonNullType" [partText "of_type" (display of)]
  | nullValue => recordText "NullValue" []
  | booleanValue value => recordText "BooleanValue" [partText "value" (display value)]
  | intValue value => recordText "IntValue" [partText "value" (display value)]
  | floatValue value => recordText "FloatValue" [partText "value" (display value)]
  | stringValue value => recordText "StringValue" [partText "value" (display value)]
  | enumValue symbol => recordText "EnumValue" [partText "value" (labelText symbol)]
  | listValue values => recordText "ListValue" [partText "values" (display values)]
  | objectField name value =>
    recordText "ObjectField" [partText "name" (labelText name),
      partText "value" (display value)]
  | objectValue fields => recordText "ObjectValue" [partText "fields" (display fields)]
  | .variable name type default =>
    recordText "Variable" [partText "name" (labelText name),
      partText "type" (display type), partText "default" (display default)]
  | argument name value =>
    recordText "Argument" [partText "name" (labelText name),
      partText "value" (display value)]
  | directive name arguments =>
    recordText "Directive" [partText "name" (labelText name),
      partText "arguments" (display arguments)]
  | field name alias? arguments directives selections =>
    recordText "Field" [partText "name" (labelText name),
      partText "alias" (labelText? alias?), partText "arguments" (display arguments),
      partText "directives" (display directives), partText "selections" (display selections)]
  | fragmentSpread name directives =>
    recordText "FragmentSpread" [partText "name" (labelText name),
      partText "directives" (display directives)]
  | inlineFragment condition? directives selections =>
    recordText "InlineFragment" [partText "type_condition" (labelText? condition?),
      partText "directives" (display directives), partText "selections" (display selections)]
  | operation kind name? declared directives selections =>
    recordText "Operation" [partText "type" (display kind), partText "name" (labelText? name?),
      partText "variables" (display declared), partText "directives" (display directives),
      partText "selections" (display selections)]
  | fragmentDefinition name condition directives selections =>
    recordText "FragmentDefinition" [partText "name" (labelText name),
      partText "type_condition" (labelText condition),
      partText "directives" (display directives), partText "selections" (display selections)]
  | printOptions indent compact =>
    recordText "PrintOptions" [partText "indent" (display indent),
      partText "compact" (display compact)]
  | document definitions => recordText "Document" [partText "definitions" (display definitions)]

/-- Items as shown in messages. -/
def displayItems : List Datum → List String
  | [] => []
  | item :: items => display item :: displayItems items

/-- The entries of a dictionary as shown in messages. -/
def displayEntries : List (Datum × Datum) → List String
  | [] => []
  | (key, value) :: entries => (display key ++ ": " ++ display value) :: displayEntries entries

/-- The fields of a record as shown in messages. -/
def displayFields : List (FieldName × Datum) → List String
  | [] => []
  | (label, value) :: fields => partText label.name (display value) :: displayFields fields

end

/-! ## Numbers that are too long to be shown -/

mutual

/-- A whole number of more digits than are written would be shown with the data. -/
def showsLong : Datum → Bool
  | null | unset | bare .. | namedType _ | nullValue | enumValue _ => false
  | scalar value => value.showsLong
  | member _ _ value _ => showsLong value
  | list items | tuple items | set items => itemsShowLong items
  | dict entries => entriesShowLong entries
  | model _ fields => fieldsShowLong fields
  | listType part | nonNullType part | booleanValue part | intValue part | floatValue part
  | stringValue part | listValue part | objectField _ part | objectValue part
  | argument _ part | directive _ part | fragmentSpread _ part | document part => showsLong part
  | .variable _ type default => showsLong type || showsLong default
  | field _ _ arguments directives selections =>
    showsLong arguments || showsLong directives || showsLong selections
  | inlineFragment _ directives selections | fragmentDefinition _ _ directives selections =>
    showsLong directives || showsLong selections
  | operation kind _ declared directives selections =>
    showsLong kind || showsLong declared || showsLong directives || showsLong selections
  | printOptions indent compact => showsLong indent || showsLong compact

/-- A whole number of more digits than are written would be shown with one of the items. -/
def itemsShowLong : List Datum → Bool
  | [] => false
  | item :: items => showsLong item || itemsShowLong items

/-- A whole number of more digits than are written would be shown with one of the entries. -/
def entriesShowLong : List (Datum × Datum) → Bool
  | [] => false
  | (key, value) :: entries => showsLong key || showsLong value || entriesShowLong entries

/-- A whole number of more digits than are written would be shown with one of the fields. -/
def fieldsShowLong : List (FieldName × Datum) → Bool
  | [] => false
  | (_, value) :: fields => showsLong value || fieldsShowLong fields

end

end Datum
end GraphQL
