import GraphQL.Data.Equality
import GraphQL.Data.Naming
import GraphQL.Request.Fault
import GraphQL.Schema.FieldType
import GraphQL.Text.Name

/-!
# Classes

Classes that a schema is drawn from, in the order of their declaration.  A class
has the fields of its base first, of which it has no more than one; a field that is
declared again keeps its place.
An enum has no classes under it, a model only extends a model, and what extends a
model is one.
Marks give a class its name and description in the schema and the order of its
fields in documentation; they belong to that class alone, and the last mark of
each sort counts.  Names that are given for the schema pass the gate for names;
what is merely noted with a field of a record can be any data.
-/

namespace GraphQL
namespace Schema

/-- Why no schema can be drawn from classes. -/
inductive SchemaFault
  /-- Something else than a name where a name is wanted. -/
  | invalidName (kind : String) (given : Datum)
  /-- A type that no schema type stands for. -/
  | unmappable (shown : String)
  /-- A union that is more than an optional type. -/
  | unmappableUnion (shown : String)
  /-- A collection of no known things. -/
  | missingItem (shown : String)
  /-- A class that has no fields to describe. -/
  | noFields (className : String)
  /-- A field in the documented order that does not exist. -/
  | unknownField (name typeName : String)
  /-- A description that no text can be made of. -/
  | badDescription (fault : Fault)
  /-- A name that cannot be put into words. -/
  | unwritableName (fault : Fault)
  /-- Fields that cannot have their names. -/
  | badFieldNames (fault : NamingFault)
  /-- A class whose name has a null character in it. -/
  | nullInName
  /-- A class that extends an enum. -/
  | enumExtended (className enumName : String)
  /-- A model that extends something else than a model. -/
  | modelWanted (className : String)

namespace SchemaFault

/-- What is said about a fault. -/
def message : SchemaFault → String
  | invalidName kind given => "Invalid GraphQL " ++ kind ++ ": " ++ given.display
  | unmappable shown => "Cannot map " ++ shown ++ " to a GraphQL type"
  | unmappableUnion shown => "Cannot map union " ++ shown ++ " to a GraphQL type"
  | missingItem shown => "Missing item type in " ++ shown
  | noFields className => className ++ " is neither a pydantic model nor a dataclass"
  | unknownField name typeName =>
    "Unknown field '" ++ name ++ "' in fields order of " ++ typeName
  | badDescription fault | unwritableName fault => fault.message
  | badFieldNames fault => fault.message
  | nullInName => "type name must not contain null characters"
  | enumExtended className enumName =>
    "<enum " ++ Text.Display.text className ++ "> cannot extend <enum " ++
      Text.Display.text enumName ++ ">"
  | modelWanted className => className ++ ".__init_subclass__() takes no keyword arguments"

end SchemaFault

/-- The name that a text is, if the gate lets it through. -/
def checkName (kind given : String) : Except SchemaFault String :=
  if Text.Name.accepts given then .ok given else .error (.invalidName kind (.text given))

/-- The name that data is, if the gate lets it through. -/
def checkNameOf (kind : String) (given : Datum) : Except SchemaFault String :=
  match given.asText? with
  | some text => checkName kind text
  | none =>
    if given.showsLong then .error (.unwritableName .tooLongToWrite)
    else .error (.invalidName kind given)

/-- The sorts of class: models and records have fields, enums have members. -/
inductive ClassKind
  | model
  | record
  | plain
  | enum
  deriving DecidableEq, Repr

/-- A field of a class. -/
structure Field where
  /-- The name in the class. -/
  name : String
  /-- The declared type. -/
  type : FieldType
  /-- The name in the schema, if it is another. -/
  schemaName? : Option Datum
  /-- The description, or null. -/
  description : Datum

/-- A field as it is declared. -/
structure FieldSpec where
  /-- The name in the class. -/
  name : String
  /-- The declared type. -/
  type : FieldType
  /-- The name that a field of a model is sent under; no text is no name. -/
  alias? : Option String
  /-- The name that a field of a record is to have in the schema, or null. -/
  schemaName : Datum
  /-- The description, or null. -/
  description : Datum
  /-- What is noted with a field of a record, by name.  A name or description counts
  unless one is given. -/
  notes : List (String × Datum)

namespace FieldSpec

/-- The field of a model that is declared. -/
def modelField (spec : FieldSpec) : Field :=
  ⟨spec.name, spec.type.asClass, (spec.alias?.filter (· ≠ "")).map .text, spec.description⟩

/-- What is noted with a field under a name. -/
def note? (spec : FieldSpec) (name : String) : Option Datum :=
  (spec.notes.find? fun note => note.1 = name).map (·.2)

/-- The name that is noted as the one that a field of a model is sent under. -/
def notedAlias? (spec : FieldSpec) : Option Datum :=
  (spec.note? "alias").filter fun name => name.asText?.isSome && !name.same (.text "")

/-- The field of a record that is declared.  A record that is a model goes by the
aliases that are noted with its fields. -/
def recordField (kind : ClassKind) (spec : FieldSpec) : Except SchemaFault Field := do
  let name? ←
    if spec.schemaName.isNull then pure (spec.note? "graphql_name")
    else (checkNameOf "field name" spec.schemaName).map fun name => some (.text name)
  let description :=
    if spec.description.isNull then (spec.note? "description").getD .null else spec.description
  return ⟨spec.name, spec.type.asClass, if kind = .model then spec.notedAlias? else name?,
    description⟩

end FieldSpec

/-- What a mark says about the type that a class is in the schema. -/
structure TypeMark where
  /-- The name of the type, if it is not the name of the class. -/
  name? : Option String
  /-- The description, if there is one. -/
  description? : Option String
  /-- The type is an input type. -/
  isInput : Bool
  deriving DecidableEq, Repr

/-- The marks on classes. -/
inductive Mark
  | type (mark : TypeMark)
  | order (names : List String)
  deriving DecidableEq, Repr

/-- A class as it is declared. -/
structure ClassSpec where
  /-- The name. -/
  name : String
  /-- The sort of class. -/
  kind : ClassKind
  /-- The name of the class that it extends, if there is one.  Only single inheritance is
  modelled: no class extends several. -/
  base? : Option String
  /-- The fields that are declared in it, in order. -/
  fields : List FieldSpec
  /-- The marks, in the order in which they are made. -/
  marks : List Mark

/-- A class. -/
structure Class where
  /-- The name. -/
  name : String
  /-- The sort of class. -/
  kind : ClassKind
  /-- The fields, those of the base first. -/
  fields : List Field
  /-- What its own last type mark says. -/
  type? : Option TypeMark
  /-- What its own last order mark says. -/
  order : List String

namespace Class

/-- The name of the type that a class is in the schema. -/
def typeName (cls : Class) : String :=
  (cls.type?.bind TypeMark.name?).getD cls.name

/-- Fields with one more: one of the same name keeps its place. -/
def insertField (field : Field) : List Field → List Field
  | [] => [field]
  | other :: fields =>
    if other.name = field.name then field :: fields else other :: insertField field fields

/-- Fields with more of them. -/
def mergeFields (fields own : List Field) : List Field :=
  own.foldl (fun merged field => insertField field merged) fields

/-- A field whose type is declared again. -/
def retype (own : List FieldSpec) (field : Field) : Field :=
  match own.reverse.find? fun spec => spec.name = field.name with
  | some spec => { field with type := spec.type.asClass }
  | none => field

/-- The sort of class that a declared class is: a plain class is what its base is,
and a record that extends a model is a model. -/
def resolvedKind (spec : ClassSpec) (base? : Option Class) : ClassKind :=
  match spec.kind, base?.map Class.kind with
  | .plain, some kind => kind
  | .record, some .model => .model
  | kind, _ => kind

/-- Whether a declared class can extend a base. -/
def checkBase (spec : ClassSpec) : Option Class → Except SchemaFault Unit
  | some base =>
    if base.kind = .enum && spec.kind ≠ .enum then .error (.enumExtended spec.name base.name)
    else if spec.kind = .model && base.kind ≠ .model then .error (.modelWanted spec.name)
    else .ok ()
  | none => .ok ()

/-- The fields of a base, as far as it is of the same sort. -/
def inherited (kind : ClassKind) : Option Class → List Field
  | some base => if base.kind = kind then base.fields else []
  | none => []

/-- The fields that are declared in a class, named as the sort of class demands. -/
def ownFields (spec : ClassSpec) (base? : Option Class) : Except SchemaFault (List Field) := do
  let names := spec.fields.map FieldSpec.name
  match spec.kind with
  | .record =>
    let fields ← spec.fields.mapM (FieldSpec.recordField (resolvedKind spec base?))
    (Naming.checkRecord [] names).mapError .badFieldNames
    checkBase spec base?
    (Naming.checkNormal names).mapError .badFieldNames
    return fields
  | .model =>
    checkBase spec base?
    (Naming.checkModel names).mapError .badFieldNames
    return spec.fields.map FieldSpec.modelField
  | _ =>
    checkBase spec base?
    return spec.fields.map FieldSpec.modelField

/-- The fields of a declared class, with its own.  A plain class that extends a
record has the fields of the record, and can only give them other types. -/
def resolvedFields (spec : ClassSpec) (base? : Option Class) (own : List Field) : List Field :=
  match resolvedKind spec base? with
  | .model => mergeFields (inherited .model base?) own
  | .record =>
    if spec.kind = .plain then (inherited .record base?).map (retype spec.fields)
    else mergeFields (inherited .record base?) own
  | _ => []

/-- A class with one more mark. -/
def addMark (cls : Class) : Mark → Except SchemaFault Class
  | .order names => .ok { cls with order := names }
  | .type mark =>
    match mark.name? with
    | some name =>
      (checkName "type name" name).map fun _ => { cls with type? := some mark }
    | none => .ok { cls with type? := some mark }

/-- A class with more marks. -/
def addMarks (cls : Class) : List Mark → Except SchemaFault Class
  | [] => .ok cls
  | mark :: marks => do addMarks (← cls.addMark mark) marks

end Class

/-- The class with a name, among classes of which the last one counts. -/
def find? (classes : List Class) (name : String) : Option Class :=
  classes.reverse.find? fun cls => cls.name = name

/-- The type of the members of a class with a name, as far as it is declared
already. -/
def reference? (classes : List Class) (name : String) : Option FieldType :=
  (classes.reverse.findIdx? fun cls => cls.name = name).map fun n =>
    .declared (classes.length - 1 - n) name

/-- Classes with one more. -/
def declare (classes : List Class) (spec : ClassSpec) : Except SchemaFault (List Class) := do
  let base? := spec.base?.bind (find? classes)
  let fields := Class.resolvedFields spec base? (← Class.ownFields spec base?)
  if spec.name.toList.contains '\x00' then throw .nullInName
  let unmarked : Class := ⟨spec.name, Class.resolvedKind spec base?, fields, none, []⟩
  return classes ++ [← unmarked.addMarks spec.marks]

end Schema
end GraphQL
