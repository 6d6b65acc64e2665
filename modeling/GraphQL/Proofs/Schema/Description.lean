import GraphQL.Proofs.Request.Meaning
import GraphQL.Proofs.Schema.Declaration
import GraphQL.Proofs.Source.Readable
import GraphQL.Schema.Description

/-!
# What is described

A class is described exactly if it has fields, each of a type that has a place in
schemas, and every name in its documented order is answered by a field.  The names that
its fields have in the schema play no part in that.
-/

namespace GraphQL
namespace Schema

open Outcome
open Source (TypeRef)
open Text

/-! ## Types of fields -/

/-- The type has only names in it that have passed the gate, and no mark twice. -/
def TypeRefPassed (type : TypeRef) : Prop :=
  Written.TypeFits Name.IsNameLine type ∧ type.Undoubled

namespace FieldType

theorem passed_nullable
    {type : TypeRef}
    (passed : TypeRefPassed type) :
    TypeRefPassed (nullable type) := by
  cases type with
  | nonNull of => exact ⟨passed.1, passed.2.2⟩
  | named _ | list _ => exact passed

theorem passed_classType
    {classes : List Class}
    {place : Nat}
    {name : String}
    {type : TypeRef}
    (made : classType classes place name = .ok type) :
    TypeRefPassed type := by
  rw [classType] at made
  split at made
  case h_2 => cases made
  case h_1 =>
    split at made
    case isTrue => cases made
    case isFalse =>
      obtain ⟨typeName, checked, rfl⟩ := map_eq_ok_iff.mp made
      obtain ⟨rfl, isNameLine⟩ := checkName_eq_ok_iff.mp checked
      exact ⟨isNameLine, rfl, trivial⟩

theorem passed_unionType
    {shown : String}
    {members : Nat}
    {mapped : List (Except SchemaFault TypeRef)}
    {type : TypeRef}
    (passed : ∀ result ∈ mapped, ∀ type, result = .ok type → TypeRefPassed type)
    (made : unionType shown members mapped = .ok type) :
    TypeRefPassed type := by
  unfold unionType at made
  split at made
  case h_2 => cases made
  case h_1 result =>
    split at made
    case isTrue => exact passed result (by simp) type made
    case isFalse =>
      obtain ⟨inner, isInner, rfl⟩ := map_eq_ok_iff.mp made
      exact passed_nullable (passed result (by simp) inner isInner)

/-- A list of a type that has passed has passed. -/
theorem passed_listType
    {inner : Except SchemaFault TypeRef}
    {type : TypeRef}
    (passed : ∀ type, inner = .ok type → TypeRefPassed type)
    (made : inner.map (fun type => .nonNull (.list type)) = .ok type) :
    TypeRefPassed type := by
  obtain ⟨item, isItem, rfl⟩ := map_eq_ok_iff.mp made
  obtain ⟨fits, undoubled⟩ := passed item isItem
  exact ⟨fits, rfl, undoubled⟩

mutual

/-- The names in the schema type of a field have passed the gate. -/
theorem passed_toTypeRef
    {classes : List Class}
    {given : FieldType}
    {type : TypeRef}
    (made : given.toTypeRef classes = .ok type) :
    TypeRefPassed type := by
  match given with
  | .scalar kind =>
    obtain rfl := Except.ok.inj made
    refine ⟨.inl ?_, rfl, trivial⟩
    cases kind <;> decide
  | .declared place name => exact passed_classType made
  | .union members | .alternatives members =>
    exact passed_unionType (@passed_memberTypes classes members) made
  | .collection .dict [] | .collection .dict (_ :: _) => cases made
  | .collection .list (item :: _) | .collection .set (item :: _)
  | .collection .frozenset (item :: _) | .collection .tuple (item :: _)
  | .listOf item | .tupleOf item =>
    exact passed_listType (fun type isItem => @passed_toTypeRef classes item type isItem) made
  | .collection .list [] | .collection .set [] | .collection .frozenset []
  | .collection .tuple [] | .someList | .someTuple | .any | .none | .noneType | .foreign _
  | .literal _ => cases made

theorem passed_memberTypes
    {classes : List Class}
    {members : List FieldType} :
    ∀ result ∈ memberTypes classes members, ∀ type, result = .ok type → TypeRefPassed type := by
  match members with
  | [] => simp [memberTypes]
  | member :: members =>
    have ofMember (type : TypeRef) (made : member.toTypeRef classes = .ok type) :
        TypeRefPassed type := passed_toTypeRef made
    have ofMembers := @passed_memberTypes classes members
    unfold memberTypes
    split
    case h_1 => simp
    case h_2 same =>
      obtain ⟨-, rfl⟩ := List.cons.inj same
      exact ofMembers
    case h_3 same =>
      obtain ⟨rfl, rfl⟩ := List.cons.inj same
      exact List.forall_mem_cons.mpr ⟨ofMember, ofMembers⟩

end

end FieldType

/-! ## Descriptions of classes -/

/-- The name that a field has in the schema. -/
def Field.schemaName (field : Field) : Datum :=
  field.schemaName?.getD (.text field.name)

/-- The field is described. -/
structure Describes (classes : List Class) (field : Field) (described : FieldDescription) :
    Prop where
  /-- The name in the schema. -/
  name : described.name = field.schemaName
  /-- The name in the class. -/
  sourceName : described.sourceName = field.name
  /-- The type has a place in schemas. -/
  type : field.type.toTypeRef classes = .ok described.type
  /-- The description. -/
  description : described.description = field.description

theorem describeField_eq_ok_iff
    {classes : List Class}
    {field : Field}
    {described : FieldDescription} :
    Class.describeField classes field = .ok described ↔ Describes classes field described := by
  rw [Class.describeField, bind_eq_ok_iff]
  constructor
  · rintro ⟨type, isType, same⟩
    obtain rfl := Except.ok.inj same
    exact ⟨rfl, rfl, isType, rfl⟩
  · rintro ⟨name, sourceName, isType, description⟩
    refine ⟨described.type, isType, ?_⟩
    cases described
    simp_all [Field.schemaName]
    rfl

/-- A class is described by a type. -/
structure Class.Describes (classes : List Class) (cls : Class) (type : TypeDescription) :
    Prop where
  /-- The class has fields. -/
  hasFields : cls.kind = .model ∨ cls.kind = .record
  /-- The name. -/
  name : type.name = cls.typeName
  /-- The fields, each described. -/
  fields : List.Forall₂ (Schema.Describes classes) cls.fields type.fields
  /-- The description. -/
  description? : type.description? = cls.type?.bind TypeMark.description?
  /-- The type is an input type if the mark says so. -/
  isInput : type.isInput = (cls.type?.map TypeMark.isInput).getD false
  /-- The documented order. -/
  order : type.order = cls.order
  /-- Every name in the documented order is answered by a field. -/
  answered : ∀ name ∈ type.order, ∃ field ∈ type.fields, field.answersTo name = true

theorem Class.describeFields_eq_ok_iff
    {classes : List Class}
    {cls : Class}
    {fields : List FieldDescription} :
    cls.describeFields classes = .ok fields ↔
      (cls.kind = .model ∨ cls.kind = .record) ∧
        List.Forall₂ (Schema.Describes classes) cls.fields fields := by
  have ofFields : cls.fields.mapM (describeField classes) = .ok fields ↔
      List.Forall₂ (Schema.Describes classes) cls.fields fields := by
    simp only [mapM_eq_ok_iff, describeField_eq_ok_iff]
  unfold describeFields
  split
  case h_1 isModel => simp [isModel, ofFields]
  case h_2 isRecord => simp [isRecord, ofFields]
  case h_3 notModel notRecord =>
    constructor
    · nofun
    · rintro ⟨isModel | isRecord, -⟩
      · exact absurd isModel notModel
      · exact absurd isRecord notRecord

/-- All names of an order are answered exactly if there is none that no field goes by. -/
theorem TypeDescription.find?_order_eq_none_iff (type : TypeDescription) :
    (type.order.find? fun name => (type.field? name).isNone) = none ↔
      ∀ name ∈ type.order, ∃ field ∈ type.fields, field.answersTo name = true := by
  rw [List.find?_eq_none]
  refine forall₂_congr fun name _ => ?_
  rw [Bool.not_eq_true, Option.isNone_eq_false_iff, field?, List.find?_isSome]

/-- A class is described by a type exactly if the parts of the type are those of the
class, every field has a type that has a place in schemas, and the documented order is
answered. -/
theorem Class.describe_eq_ok_iff
    {classes : List Class}
    {cls : Class}
    {type : TypeDescription} :
    cls.describe classes = .ok type ↔ cls.Describes classes type := by
  rw [describe, bind_eq_ok_iff]
  constructor
  · rintro ⟨fields, madeFields, checked⟩
    obtain ⟨hasFields, areFields⟩ := describeFields_eq_ok_iff.mp madeFields
    dsimp only at checked
    split at checked
    case h_1 => cases checked
    case h_2 unanswered =>
      obtain rfl := Except.ok.inj checked
      exact ⟨hasFields, rfl, areFields, rfl, rfl, rfl,
        (TypeDescription.find?_order_eq_none_iff _).mp unanswered⟩
  · rintro ⟨hasFields, name, areFields, description?, isInput, order, answered⟩
    refine ⟨type.fields, describeFields_eq_ok_iff.mpr ⟨hasFields, areFields⟩, ?_⟩
    have same : TypeDescription.mk cls.typeName type.fields
        (cls.type?.bind TypeMark.description?) ((cls.type?.map TypeMark.isInput).getD false)
        cls.order = type := by
      rw [← name, ← description?, ← isInput, ← order]
    dsimp only
    rw [same, ← order, (TypeDescription.find?_order_eq_none_iff type).mpr answered]
    rfl

theorem Class.Describes.sourceNames
    {classes : List Class}
    {cls : Class}
    {type : TypeDescription}
    (describes : cls.Describes classes type) :
    type.fields.map FieldDescription.sourceName = cls.fields.map Field.name := by
  have sameNames : List.Forall₂ (· = ·) (type.fields.map FieldDescription.sourceName)
      (cls.fields.map Field.name) := by
    rw [List.forall₂_map_left_iff, List.forall₂_map_right_iff]
    exact describes.fields.flip.imp fun _ _ isDescribed => isDescribed.sourceName
  rwa [List.forall₂_eq_eq_eq] at sameNames

/-- What is known of the names in a described type.  The class was declared, and a mark's
name for its type has passed the gate while the name of the class need not have.  Whether
the class is described does not depend on the names that its fields have in the schema,
which come from their declarations on the routes that there are; the names in their types
have passed the gate. -/
theorem Class.describe_names
    {specs : List ClassSpec}
    {classes : List Class}
    {cls : Class}
    (declared : declareAll specs = .ok classes)
    (present : cls ∈ classes)
    (type : TypeDescription) :
    (cls.describe classes = .ok type ↔ cls.Describes classes type) ∧
      (cls.describe classes = .ok type →
        ((∃ spec ∈ specs, type.name = spec.name) ∨ Name.IsNameLine type.name) ∧
          (type.fields.map FieldDescription.sourceName).Nodup ∧
          ∀ field ∈ type.fields, TypeRefPassed field.type ∧
            ∃ spec ∈ specs, ∃ origin ∈ spec.fields, field.sourceName = origin.name ∧
              ∃ schemaName?, origin.Route schemaName? ∧
                field.name = schemaName?.getD (.text origin.name)) := by
  refine ⟨describe_eq_ok_iff, fun made => ?_⟩
  have describes := describe_eq_ok_iff.mp made
  have sound := sound_of_declareAll declared cls present
  refine ⟨?_, ?_, fun field isField => ?_⟩
  · rw [describes.name]
    exact sound.typeName
  · rw [describes.sourceNames]
    exact sound.distinct
  · obtain ⟨given, isGiven, isDescribed⟩ := exists_of_mem_forall₂ describes.fields isField
    obtain ⟨spec, isSpec, origin, isOrigin, sameName, route⟩ := sound.named given isGiven
    refine ⟨FieldType.passed_toTypeRef isDescribed.type, spec, isSpec, origin, isOrigin, ?_,
      given.schemaName?, route, ?_⟩
    · rw [isDescribed.sourceName, sameName]
    · rw [isDescribed.name, Field.schemaName, sameName]

/-- A class is described although its two fields have one alias, which is no name. -/
theorem Class.describe_names_alias :
    let field (name : String) : FieldSpec :=
      ⟨name, .scalar .str, some "full-name", .null, .null, []⟩
    let spec : ClassSpec := ⟨"Person", .model, none, [field "first", field "last"], []⟩
    ∃ cls type, declareAll [spec] = .ok [cls] ∧ cls.describe [cls] = .ok type ∧
      type.fields.map FieldDescription.name = [.text "full-name", .text "full-name"] ∧
      ¬ Name.IsName "full-name" ∧ (type.fields.map FieldDescription.sourceName).Nodup := by
  intro field spec
  have declared : declareAll [spec] = .ok [⟨"Person", .model,
      [(field "first").modelField, (field "last").modelField], none, []⟩] := by
    simp only [declareAll, List.foldlM, spec, field]
    rfl
  obtain ⟨-, known⟩ := describe_names declared List.mem_cons_self _
  refine ⟨_, _, declared, rfl, rfl, by decide, (known rfl).2.1⟩

end Schema
end GraphQL
