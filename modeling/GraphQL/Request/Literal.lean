import GraphQL.Data.Record
import GraphQL.Request.Node

/-!
# Literals

The value that data stands for in a request.  Plain data becomes a literal of its
kind, an enum member the symbol of its name, a collection a list or an object, a
record the object of its fields.  Values stay as they are, so a variable inside
data is a reference.
-/

namespace GraphQL

namespace Scalar

/-- The literal of a scalar, if it has one. -/
def toLiteral? : Scalar → Option Datum
  | bool value => some (.booleanValue (.bool value))
  | int value => some (.intValue (.int value))
  | float value => some (.floatValue (.float value))
  | decimal value => some (.floatValue (.decimal value))
  | text value => some (.stringValue (.text value))
  | uuid value => some (.stringValue (.text value.text))
  | date value => some (.stringValue (.text value.text))
  | time value => some (.stringValue (.text value.text))
  | moment value => some (.stringValue (.text value.text))
  | complex .. | bytes _ => none

end Scalar

namespace Datum

mutual

/-- The value that data without records stands for.  The value of a field is
looked at before the field's name is.  A record that could not be unfolded has a
set in it that would hold dictionaries. -/
def convert : Datum → Except Fault Datum
  | null => .ok .nullValue
  | scalar value =>
    match value.toLiteral? with
    | some literal => .ok literal
    | none => .error (.unsupportedValue (.scalar value))
  | member _ name _ _ => Node.enumValue (.text name)
  | list items | tuple items => do
    return .listValue (.tuple (← convertItems items))
  | dict entries => do
    Node.objectValue (.tuple (← convertEntries entries))
  | model .. => .error (.unhashable "dict")
  | datum => if datum.isValue then .ok datum else .error (Fault.unsupportedValue datum).raised

/-- The values that items stand for. -/
def convertItems : List Datum → Except Fault (List Datum)
  | [] => .ok []
  | item :: items => do
    let value ← convert item
    return value :: (← convertItems items)

/-- The object fields that entries of a dictionary stand for. -/
def convertEntries : List (Datum × Datum) → Except Fault (List Datum)
  | [] => .ok []
  | (key, item) :: entries => do
    let value ← convert item
    let field ← Node.objectField key value
    return field :: (← convertEntries entries)

end

/-- The value that data stands for. -/
def toValue (datum : Datum) : Except Fault Datum :=
  convert datum.unfold

end Datum
end GraphQL
