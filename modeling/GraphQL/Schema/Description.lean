import GraphQL.Schema.Class
import GraphQL.Source.Printer

/-!
# Descriptions of types

The type that a class is in a schema.  A field is non-null unless its type allows
nothing, and a collection is a list of what it holds.  `fields` has the fields as
they are declared, `documented` those that the order mark names first.
-/

namespace GraphQL
namespace Schema

open Source (TypeRef)

namespace FieldType

/-- A type that admits null. -/
def nullable : TypeRef → TypeRef
  | .nonNull of => of
  | type => type

/-- The type of a class by its place. -/
def classType (classes : List Class) (place : Nat) (name : String) : Except SchemaFault TypeRef :=
  match classes[place]? with
  | some cls =>
    if cls.kind = .plain then .error (.unmappable (declared place name).display)
    else (checkName "type name" cls.typeName).map fun typeName => .nonNull (.named typeName)
  | .none => .error (.unmappable (declared place name).display)

/-- The type of a union with given members, of which `mapped` are the types other
than null. -/
def unionType (shown : String) (members : Nat) (mapped : List (Except SchemaFault TypeRef)) :
    Except SchemaFault TypeRef :=
  match mapped with
  | [result] => if members = 1 then result else result.map nullable
  | _ => .error (.unmappableUnion shown)

mutual

/-- The schema type of what a field is declared to hold. -/
def toTypeRef (classes : List Class) : FieldType → Except SchemaFault TypeRef
  | scalar kind => .ok (.nonNull (.named kind.typeName))
  | declared place name => classType classes place name
  | union members =>
    unionType (union members).display members.length (memberTypes classes members)
  | alternatives members =>
    unionType (alternatives members).display members.length (memberTypes classes members)
  | collection .dict items => .error (.unmappable (collection .dict items).display)
  | collection _ (item :: _) | listOf item | tupleOf item =>
    (toTypeRef classes item).map fun type => .nonNull (.list type)
  | collection kind [] => .error (.missingItem (collection kind []).display)
  | someList => .error (.missingItem someList.display)
  | someTuple => .error (.missingItem someTuple.display)
  | other => .error (.unmappable other.display)

/-- The schema types of the members of a union other than nothing. -/
def memberTypes (classes : List Class) : List FieldType → List (Except SchemaFault TypeRef)
  | [] => []
  | noneType :: members => memberTypes classes members
  | member :: members => toTypeRef classes member :: memberTypes classes members

end

end FieldType

/-- A field of a described type. -/
structure FieldDescription where
  /-- The name in the schema. -/
  name : Datum
  /-- The name in the class. -/
  sourceName : String
  /-- The type. -/
  type : TypeRef
  /-- The description, or null. -/
  description : Datum

namespace FieldDescription

/-- Equality of described fields. -/
def same (a b : FieldDescription) : Bool :=
  a.name.same b.name && a.sourceName = b.sourceName && a.type = b.type &&
    a.description.same b.description

instance : BEq FieldDescription := ⟨same⟩

/-- The field goes by a name, in the schema or in the class. -/
def answersTo (field : FieldDescription) (name : String) : Bool :=
  (Datum.text name).same field.name || field.sourceName = name

end FieldDescription

/-- A described type. -/
structure TypeDescription where
  /-- The name. -/
  name : String
  /-- The fields, in the order of declaration. -/
  fields : List FieldDescription
  /-- The description, if there is one. -/
  description? : Option String
  /-- The type is an input type. -/
  isInput : Bool
  /-- The names of the fields that documentation lists first. -/
  order : List String

namespace TypeDescription

/-- The first field that goes by a name, in the schema or in the class. -/
def field? (type : TypeDescription) (name : String) : Option FieldDescription :=
  type.fields.find? fun field => field.answersTo name

/-- The fields that the order names, as far as they exist. -/
def ordered (type : TypeDescription) : List (Option FieldDescription) :=
  type.order.map type.field?

/-- The fields in the order of documentation: those that the order names, and then
the others as they are declared.  A name that no field goes by leaves a gap. -/
def documented (type : TypeDescription) : List (Option FieldDescription) :=
  type.ordered ++
    (type.fields.filter fun field => !type.ordered.any fun found => found == some field).map some

end TypeDescription

namespace Class

/-- The description of a field. -/
def describeField (classes : List Class) (field : Field) :
    Except SchemaFault FieldDescription := do
  let type ← field.type.toTypeRef classes
  return ⟨field.schemaName?.getD (.text field.name), field.name, type, field.description⟩

/-- The descriptions of the fields of a class. -/
def describeFields (classes : List Class) (cls : Class) :
    Except SchemaFault (List FieldDescription) :=
  match cls.kind with
  | .model | .record => cls.fields.mapM (describeField classes)
  | _ => .error (.noFields cls.name)

/-- The description of the type that a class is.  Every field in the documented
order has to exist. -/
def describe (classes : List Class) (cls : Class) : Except SchemaFault TypeDescription := do
  let fields ← describeFields classes cls
  let type : TypeDescription :=
    ⟨cls.typeName, fields, cls.type?.bind TypeMark.description?,
      (cls.type?.map TypeMark.isInput).getD false, cls.order⟩
  match type.order.find? fun name => (type.field? name).isNone with
  | some name => throw (.unknownField name type.name)
  | none => return type

end Class
end Schema
end GraphQL
