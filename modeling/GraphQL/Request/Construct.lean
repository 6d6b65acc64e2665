import GraphQL.Request.Node

/-!
# Nodes from named parts

A node can be made from its parts by name.  A `Shape` says which parts a kind of
node has and what stands in for a part that is not given; the checks of nodes are
the same as ever.
-/

namespace GraphQL
namespace Node

/-- A part of a kind of node. -/
structure PartShape where
  /-- The name of the part. -/
  name : String
  /-- What stands in for the part; without it the part has to be given. -/
  standIn : Option Datum

namespace PartShape

/-- A part that has to be given. -/
def required (name : String) : PartShape := ⟨name, none⟩

/-- A part that is null unless it is given. -/
def optional (name : String) : PartShape := ⟨name, some .null⟩

/-- A part that is empty unless it is given. -/
def many (name : String) : PartShape := ⟨name, some (.tuple [])⟩

end PartShape

/-- A kind of node that has parts. -/
structure Shape where
  /-- The name of the kind. -/
  name : String
  /-- The parts in order. -/
  parts : List PartShape
  /-- Makes a node of its parts. -/
  make : (String → Datum) → Except Fault Datum

namespace Shape

open PartShape

/-- A literal with a value that is not checked. -/
def literal (name : String) (make : Datum → Datum) : Shape :=
  ⟨name, [required "value"], fun part => .ok (make (part "value"))⟩

/-- The shapes of all kinds of node that have parts. -/
def all : List Shape :=
  [⟨"NamedType", [required "name"], fun part => namedType (part "name")⟩,
    ⟨"ListType", [required "of_type"], fun part => .ok (.listType (part "of_type"))⟩,
    ⟨"NonNullType", [required "of_type"], fun part => .ok (.nonNullType (part "of_type"))⟩,
    ⟨"NullValue", [], fun _ => .ok .nullValue⟩,
    literal "BooleanValue" .booleanValue,
    literal "IntValue" .intValue,
    literal "FloatValue" .floatValue,
    literal "StringValue" .stringValue,
    ⟨"EnumValue", [required "value"], fun part => enumValue (part "value")⟩,
    ⟨"ListValue", [many "values"], fun part => .ok (.listValue (part "values"))⟩,
    ⟨"ObjectField", [required "name", required "value"], fun part =>
      objectField (part "name") (part "value")⟩,
    ⟨"ObjectValue", [many "fields"], fun part => objectValue (part "fields")⟩,
    ⟨"Variable", [required "name", required "type", optional "default"], fun part =>
      declaration (part "name") (part "type") (part "default")⟩,
    ⟨"Argument", [required "name", required "value"], fun part =>
      argument (part "name") (part "value")⟩,
    ⟨"Directive", [required "name", many "arguments"], fun part =>
      directive (part "name") (part "arguments")⟩,
    ⟨"Field", [required "name", optional "alias", many "arguments", many "directives",
        many "selections"], fun part =>
      field (part "name") (part "alias") (part "arguments") (part "directives")
        (part "selections")⟩,
    ⟨"FragmentSpread", [required "name", many "directives"], fun part =>
      fragmentSpread (part "name") (part "directives")⟩,
    ⟨"InlineFragment", [optional "type_condition", many "directives", many "selections"],
      fun part =>
        inlineFragment (part "type_condition") (part "directives") (part "selections")⟩,
    ⟨"Operation", [required "type", optional "name", many "variables", many "directives",
        many "selections"], fun part =>
      operation (part "type") (part "name") (part "variables") (part "directives")
        (part "selections")⟩,
    ⟨"FragmentDefinition", [required "name", required "type_condition", many "directives",
        many "selections"], fun part =>
      fragmentDefinition (part "name") (part "type_condition") (part "directives")
        (part "selections")⟩,
    ⟨"PrintOptions", [⟨"indent", some (.text "  ")⟩, ⟨"compact", some (.bool false)⟩],
      fun part => printOptions (part "indent") (part "compact")⟩,
    ⟨"Document", [many "definitions"], fun part => document (part "definitions")⟩]

/-- A part by name: as given, or what stands in for it. -/
def pick? (given : List (String × Datum)) (part : PartShape) : Option Datum :=
  match given.find? fun entry => entry.1 = part.name with
  | some entry => some entry.2
  | none => part.standIn

/-- Makes a node from parts with names. -/
def fill (shape : Shape) (given : List (String × Datum)) : Except Fault Datum :=
  match given.find? fun entry => !shape.parts.any fun part => part.name = entry.1 with
  | some entry => .error (.unexpectedPart shape.name entry.1)
  | none =>
    match shape.parts.filter fun part => (pick? given part).isNone with
    | [] => shape.make fun name =>
        ((shape.parts.find? fun part => part.name = name).bind (pick? given)).getD .null
    | absent => .error (.missingParts shape.name (absent.map PartShape.name))

end Shape

/-- The kinds of node without parts, by name. -/
def bare? (name : String) : Option Bare :=
  match name with
  | "TypeRef" => some .typeRef
  | "Value" => some .value
  | "Selection" => some .selection
  | "Definition" => some .definition
  | _ => none

/-- Makes a node of a kind from parts with names.  A node without parts is known
by `serial`.  There is no node of an unknown kind. -/
def construct? (kind : String) (given : List (String × Datum)) (serial : Nat) :
    Option (Except Fault Datum) :=
  match bare? kind with
  | some bare =>
    some (if given.isEmpty then .ok (.bare bare serial) else .error (.takesNoParts kind))
  | none =>
    (Shape.all.find? fun shape => shape.name = kind).map fun shape => shape.fill given

end Node

namespace Layout

/-- The layout that options ask for, each given by its name. -/
def ofOptions (given : List (String × Datum)) : Except Fault Layout := do
  match Node.Shape.all.find? fun shape => shape.name = "PrintOptions" with
  | some shape =>
    match ← shape.fill given with
    | .printOptions indent compact =>
      of ((indent.asText?).getD standard.indent) compact.truthy
    | _ => return standard
  | none => return standard

end Layout
end GraphQL
