import GraphQL.Data.Datum
import GraphQL.Request.Numeral
import GraphQL.Source.Document

/-!
# The document that a request stands for

The mirror of a request is the source document with the same parts in the same order.
Whole numbers are written in decimal digits and other numbers by their numerals; texts
are kept character by character.  Data that is no part of a request has no counterpart
among documents, and something plain stands in for it.
-/

namespace GraphQL
namespace Mirror

/-- The reference to a type. -/
def typeRef : Datum → Source.TypeRef
  | .listType of => .list (typeRef of)
  | .nonNullType of => .nonNull (typeRef of)
  | .namedType name => .named name.text
  | _ => .named ""

mutual

/-- The value. -/
def value : Datum → Source.Value
  | .variable name _ _ => .variable name.text
  | .booleanValue given => .boolean given.truthy
  | .intValue given => .int (toString (given.asInt?.getD 0))
  | .floatValue given => .float ((Numeral.fractional given).toOption.getD "")
  | .stringValue given => .string (given.asText?.getD "") false
  | .enumValue symbol => .enum symbol.text
  | .listValue (.tuple items) => .list (values items)
  | .objectValue (.tuple fields) => .object (objectFields fields)
  | _ => .null

/-- The items of a list. -/
def values : List Datum → List Source.Value
  | [] => []
  | item :: items => value item :: values items

/-- The fields of an object. -/
def objectFields : List Datum → List (String × Source.Value)
  | [] => []
  | .objectField name given :: fields => (name.text, value given) :: objectFields fields
  | _ :: fields => objectFields fields

end

/-- The argument. -/
def argument : Datum → Source.Argument
  | .argument name given => ⟨name.text, value given⟩
  | _ => ⟨"", .null⟩

/-- The items of a tuple, one by one. -/
def items {α : Type} (item : Datum → α) : Datum → List α
  | .tuple items => items.map item
  | _ => []

/-- The directive. -/
def directive : Datum → Source.Directive
  | .directive name arguments => ⟨name.text, items argument arguments⟩
  | _ => ⟨"", []⟩

mutual

/-- The selection. -/
def selection : Datum → Source.Selection
  | .field name alias? arguments directives (.tuple selected) =>
    .field (alias?.map Label.text) name.text (items argument arguments)
      (items directive directives) (selections selected)
  | .fragmentSpread name directives => .spread name.text (items directive directives)
  | .inlineFragment condition? directives (.tuple selected) =>
    .inlineFragment (condition?.map Label.text) (items directive directives)
      (selections selected)
  | _ => .spread "" []

/-- The selections of a set. -/
def selections : List Datum → List Source.Selection
  | [] => []
  | item :: items => selection item :: selections items

end

/-- The definition of a variable. -/
def variableDefinition : Datum → Source.VariableDefinition
  | .variable name type .null => ⟨name.text, typeRef type, none, []⟩
  | .variable name type default => ⟨name.text, typeRef type, some (value default), []⟩
  | _ => ⟨"", .named "", none, []⟩

/-- The kind of an operation: the one whose keyword is the value of the data. -/
def operationKind (kind : Datum) : Source.OperationKind :=
  (do Source.OperationKind.ofText? (← (← kind.part? "value").asText?)).getD .query

/-- The definition. -/
def definition : Datum → Source.Definition
  | .operation kind name? declared directives selected =>
    .operation (operationKind kind) (name?.map Label.text) (items variableDefinition declared)
      (items directive directives) (items selection selected)
  | .fragmentDefinition name condition directives selected =>
    .fragment name.text condition.text (items directive directives) (items selection selected)
  | _ => .schemaExtension [] []

/-- The document. -/
def document : Datum → Source.Document
  | .document definitions => ⟨items definition definitions⟩
  | _ => ⟨[]⟩

/-! ## Lists -/

@[simp] theorem values_eq_map (given : List Datum) : values given = given.map value := by
  induction given with
  | nil => rfl
  | cons item given inductionHypothesis => rw [values, inductionHypothesis, List.map_cons]

@[simp] theorem selections_eq_map (given : List Datum) :
    selections given = given.map selection := by
  induction given with
  | nil => rfl
  | cons item given inductionHypothesis => rw [selections, inductionHypothesis, List.map_cons]

theorem objectFields_eq_map (fields : List (Label × Datum)) :
    objectFields (fields.map fun field => .objectField field.1 field.2) =
      fields.map fun field => (field.1.text, value field.2) := by
  induction fields with
  | nil => rfl
  | cons field fields inductionHypothesis =>
    rw [List.map_cons, objectFields, inductionHypothesis, List.map_cons]

end Mirror
end GraphQL
