import GraphQL.Proofs.Request.Conversion
import GraphQL.Proofs.Schema.Description

/-!
# Records as the input objects of their classes

A class is described by a type with a field for each of its own, and a record of the class
is sent as an object.  The two are made in different ways, and they agree: the object has
the described fields of which the record has a value, under the described names and in the
described order, and so has the object of every record inside.
-/

namespace GraphQL
namespace Schema

open Outcome
open Text

/-! ## Records of classes -/

/-- A record has a field of its class under the name and alias that the class knows.  An
empty alias is none to the class. -/
structure Field.Labels (field : Field) (label : FieldName) : Prop where
  /-- The name in the class. -/
  name : label.name = field.name
  /-- The alias, which is the name in the schema. -/
  schemaName? : field.schemaName? = (label.alias?.filter (· ≠ "")).map .text

theorem FieldSpec.labels_modelField (spec : FieldSpec) :
    spec.modelField.Labels ⟨spec.name, spec.alias?⟩ :=
  ⟨rfl, rfl⟩

/-- Without an empty alias, a field is sent under the name that it has in the schema. -/
theorem Field.Labels.schemaName
    {field : Field}
    {label : FieldName}
    (labels : field.Labels label)
    (notEmpty : label.alias? ≠ some "") :
    field.schemaName = .text label.key := by
  rw [Field.schemaName, labels.schemaName?, FieldName.key, ← labels.name]
  cases isAlias : label.alias? with
  | none => rfl
  | some name =>
    have named : name ≠ "" := fun same => notEmpty (by rw [isAlias, same])
    simp [Option.filter, named]

/-- A record is of a class that is described with different names for its fields. -/
structure Class.HasRecord
    (classes : List Class)
    (cls : Class)
    (fields : List (FieldName × Datum)) : Prop where
  /-- The record has the fields of the class. -/
  labels : List.Forall₂ Field.Labels cls.fields (fields.map (·.1))
  /-- No alias is empty. -/
  notEmpty : ∀ field ∈ fields, field.1.alias? ≠ some ""
  /-- The class is described, and the fields have different names in the schema. -/
  described : ∃ (type : TypeDescription) (names : List String), cls.describe classes = .ok type ∧
    type.fields.map FieldDescription.name = names.map .text ∧
    (∀ name ∈ names, Name.IsName name) ∧ names.Nodup

/-- A field of a record is described. -/
structure FieldDescription.Describes
    (described : FieldDescription)
    (field : FieldName × Datum) : Prop where
  /-- The field is sent under the described name. -/
  name : described.name = .text field.1.key
  /-- The name in the class. -/
  sourceName : described.sourceName = field.1.name

theorem FieldDescription.describes_of_labels
    {classes : List Class}
    {givens : List Field}
    {describeds : List FieldDescription}
    {fields : List (FieldName × Datum)}
    (ofClass : List.Forall₂ (Schema.Describes classes) givens describeds)
    (labels : List.Forall₂ (fun given field => given.Labels field.1) givens fields)
    (notEmpty : ∀ field ∈ fields, field.1.alias? ≠ some "") :
    List.Forall₂ FieldDescription.Describes describeds fields := by
  induction ofClass generalizing fields with
  | nil =>
    obtain rfl := List.forall₂_nil_left_iff.mp labels
    exact .nil
  | cons isDescribed _ inductionHypothesis =>
    obtain ⟨field, rest, isLabel, labelsRest, rfl⟩ := List.forall₂_cons_left_iff.mp labels
    obtain ⟨notEmpty, notEmptyRest⟩ := List.forall_mem_cons.mp notEmpty
    refine .cons ⟨?_, ?_⟩ (inductionHypothesis labelsRest notEmptyRest)
    · rw [isDescribed.name, isLabel.schemaName notEmpty]
    · rw [isDescribed.sourceName, isLabel.name]

/-- What is known of the record of a class: each field is sent under the name that is
described, and these names differ. -/
theorem Class.HasRecord.exists_type
    {classes : List Class}
    {cls : Class}
    {fields : List (FieldName × Datum)}
    (hasRecord : cls.HasRecord classes fields) :
    ∃ type, cls.describe classes = .ok type ∧
      List.Forall₂ FieldDescription.Describes type.fields fields ∧
      (∀ field ∈ fields, Name.IsName field.1.key) ∧ (fields.map (·.1.key)).Nodup := by
  obtain ⟨type, names, described, areNames, named, distinct⟩ := hasRecord.described
  have ofClass := (Class.describe_eq_ok_iff.mp described).fields
  have labels := List.forall₂_map_right_iff.mp hasRecord.labels
  have describes := FieldDescription.describes_of_labels ofClass labels hasRecord.notEmpty
  have sameNames : fields.map (·.1.key) = names := by
    have sameTexts : List.Forall₂ (· = ·) (type.fields.map FieldDescription.name)
        ((fields.map (·.1.key)).map Datum.text) := by
      simp only [List.forall₂_map_left_iff, List.forall₂_map_right_iff]
      exact describes.imp fun _ _ isDescribed => isDescribed.name
    rw [List.forall₂_eq_eq_eq, areNames] at sameTexts
    refine (List.map_injective_iff.mpr (fun first second same => ?_) sameTexts).symm
    exact Scalar.text.inj (Datum.scalar.inj same)
  refine ⟨type, described, describes, fun field present => ?_, sameNames ▸ distinct⟩
  exact named _ (sameNames ▸ List.mem_map_of_mem present)

end Schema

namespace Datum

open Outcome
open Schema (FieldDescription)
open Text

mutual

/-- The data is put together from null, scalars, enum members, lists, tuples, dictionaries
and records of their classes. -/
def Plain (classes : List Schema.Class) (classOf : Nat → Schema.Class) : Datum → Prop
  | null | scalar _ | member .. => True
  | list items | tuple items => AllPlain classes classOf items
  | dict entries => EntriesPlain classes classOf entries
  | model serial fields =>
    (classOf serial).HasRecord classes fields ∧ FieldsPlain classes classOf fields
  | _ => False

/-- All items are plain. -/
def AllPlain (classes : List Schema.Class) (classOf : Nat → Schema.Class) : List Datum → Prop
  | [] => True
  | item :: items => Plain classes classOf item ∧ AllPlain classes classOf items

/-- The values of all entries are plain. -/
def EntriesPlain (classes : List Schema.Class) (classOf : Nat → Schema.Class) :
    List (Datum × Datum) → Prop
  | [] => True
  | (_, item) :: entries => Plain classes classOf item ∧ EntriesPlain classes classOf entries

/-- The values of all fields are plain. -/
def FieldsPlain (classes : List Schema.Class) (classOf : Nat → Schema.Class) :
    List (FieldName × Datum) → Prop
  | [] => True
  | (_, item) :: fields => Plain classes classOf item ∧ FieldsPlain classes classOf fields

end

mutual

/-- The value is that of the data, in which every record is the object that its class asks
for. -/
inductive Shows (classes : List Schema.Class) (classOf : Nat → Schema.Class) : Datum → Datum → Prop
  | null : Shows classes classOf .null .nullValue
  | scalar {value : Scalar} {literal : Datum} :
      value.toLiteral? = some literal →
      Shows classes classOf (.scalar value) literal
  | member (family : Family) (name : String) (value : Datum) (others : List (String × Datum)) :
      Shows classes classOf (.member family name value others) (.enumValue (.plain name))
  | list {items values : List Datum} :
      ShowsItems classes classOf items values →
      Shows classes classOf (.list items) (.listValue (.tuple values))
  | tuple {items values : List Datum} :
      ShowsItems classes classOf items values →
      Shows classes classOf (.tuple items) (.listValue (.tuple values))
  | dict {entries : List (Datum × Datum)} {objectFields : List Datum} :
      ShowsEntries classes classOf entries objectFields →
      Shows classes classOf (.dict entries) (.objectValue (.tuple objectFields))
  | model
      {serial : Nat}
      {fields : List (FieldName × Datum)}
      {type : Schema.TypeDescription}
      {objectFields : List Datum} :
      (classOf serial).describe classes = .ok type →
      ShowsFields classes classOf type.fields fields objectFields →
      Shows classes classOf (.model serial fields) (.objectValue (.tuple objectFields))

/-- The values are those of the items. -/
inductive ShowsItems (classes : List Schema.Class) (classOf : Nat → Schema.Class) :
    List Datum → List Datum → Prop
  | nil : ShowsItems classes classOf [] []
  | cons {item value : Datum} {items values : List Datum} :
      Shows classes classOf item value →
      ShowsItems classes classOf items values →
      ShowsItems classes classOf (item :: items) (value :: values)

/-- The object fields are those of the entries of a dictionary. -/
inductive ShowsEntries (classes : List Schema.Class) (classOf : Nat → Schema.Class) :
    List (Datum × Datum) → List Datum → Prop
  | nil : ShowsEntries classes classOf [] []
  | cons
      {key item value : Datum}
      {label : Label}
      {entries : List (Datum × Datum)}
      {objectFields : List Datum} :
      key.asLabel? = some label →
      Shows classes classOf item value →
      ShowsEntries classes classOf entries objectFields →
      ShowsEntries classes classOf ((key, item) :: entries)
        (.objectField label value :: objectFields)

/-- The object fields are the described ones of which a record has a value, each with the
value that the record's is converted to. -/
inductive ShowsFields (classes : List Schema.Class) (classOf : Nat → Schema.Class) :
    List FieldDescription → List (FieldName × Datum) → List Datum → Prop
  | nil : ShowsFields classes classOf [] [] []
  | unset
      {described : FieldDescription}
      {label : FieldName}
      {describeds : List FieldDescription}
      {fields : List (FieldName × Datum)}
      {objectFields : List Datum} :
      described.sourceName = label.name →
      ShowsFields classes classOf describeds fields objectFields →
      ShowsFields classes classOf (described :: describeds) ((label, .null) :: fields)
        objectFields
  | set
      {described : FieldDescription}
      {label : FieldName}
      {name : String}
      {item value : Datum}
      {describeds : List FieldDescription}
      {fields : List (FieldName × Datum)}
      {objectFields : List Datum} :
      described.sourceName = label.name →
      described.name = .text name →
      item ≠ .null →
      item.toValue = .ok value →
      Shows classes classOf item value →
      ShowsFields classes classOf describeds fields objectFields →
      ShowsFields classes classOf (described :: describeds) ((label, item) :: fields)
        (.objectField (.plain name) value :: objectFields)

end

variable
  {classes : List Schema.Class}
  {classOf : Nat → Schema.Class}

/-! ## Records inside records -/

mutual

/-- Plain data can stand in a record. -/
theorem expandable_of_plain
    {datum : Datum}
    (plain : datum.Plain classes classOf) :
    datum.expandable = true := by
  match datum with
  | .null | .scalar _ | .member _ _ _ _ => rfl
  | .list items | .tuple items => exact @allExpandable_of_plain items plain
  | .dict entries => exact @entriesExpandable_of_plain entries plain
  | .model _ fields => exact fieldsExpandable_of_plain plain.2

theorem allExpandable_of_plain
    {items : List Datum}
    (plain : AllPlain classes classOf items) :
    allExpandable items = true := by
  match items with
  | [] => rfl
  | item :: items =>
    rw [allExpandable, expandable_of_plain plain.1, allExpandable_of_plain plain.2, Bool.and_self]

theorem entriesExpandable_of_plain
    {entries : List (Datum × Datum)}
    (plain : EntriesPlain classes classOf entries) :
    entriesExpandable entries = true := by
  match entries with
  | [] => rfl
  | (_, item) :: entries =>
    rw [entriesExpandable, expandable_of_plain plain.1, entriesExpandable_of_plain plain.2,
      Bool.and_self]

theorem fieldsExpandable_of_plain
    {fields : List (FieldName × Datum)}
    (plain : FieldsPlain classes classOf fields) :
    fieldsExpandable fields = true := by
  match fields with
  | [] => rfl
  | (_, item) :: fields =>
    rw [fieldsExpandable, expandable_of_plain plain.1, fieldsExpandable_of_plain plain.2,
      Bool.or_true, Bool.and_self]

end

mutual

/-- Plain data is the same inside a record and outside. -/
theorem expand_of_plain
    {datum : Datum}
    (plain : datum.Plain classes classOf) :
    datum.expand = datum.unfold := by
  match datum with
  | .null | .scalar _ | .member _ _ _ _ => rfl
  | .list items | .tuple items => rw [expand, unfold, @expandItems_of_plain items plain]
  | .dict entries => rw [expand, unfold, @expandEntries_of_plain entries plain]
  | .model _ fields => rw [unfold, if_pos (fieldsExpandable_of_plain plain.2)]

theorem expandItems_of_plain
    {items : List Datum}
    (plain : AllPlain classes classOf items) :
    expandItems items = unfoldItems items := by
  match items with
  | [] => rfl
  | item :: items =>
    rw [expandItems, unfoldItems, expand_of_plain plain.1, expandItems_of_plain plain.2]

theorem expandEntries_of_plain
    {entries : List (Datum × Datum)}
    (plain : EntriesPlain classes classOf entries) :
    expandEntries entries = unfoldEntries entries := by
  match entries with
  | [] => rfl
  | (_, item) :: entries =>
    rw [expandEntries, unfoldEntries, expand_of_plain plain.1, expandEntries_of_plain plain.2]

end

theorem plain_of_mem
    {fields : List (FieldName × Datum)}
    (plain : FieldsPlain classes classOf fields) :
    ∀ field ∈ fields, field.2.Plain classes classOf := by
  induction fields with
  | nil => nofun
  | cons field fields inductionHypothesis =>
    exact List.forall_mem_cons.mpr ⟨plain.1, inductionHypothesis plain.2⟩

/-- Fields that are sent under different names stay so without those that have no value. -/
theorem nodup_setFields
    {fields : List (FieldName × Datum)}
    (distinct : (fields.map (·.1.key)).Nodup) :
    ((setFields fields).map (·.1)).Nodup := by
  refine List.Nodup.sublist ?_ distinct
  rw [setFields, List.map_map]
  exact List.Sublist.map _ List.filter_sublist

/-- A record of plain data is converted field by field, where a field without a value is
left out. -/
theorem toValue_plainRecord
    {serial : Nat}
    {fields : List (FieldName × Datum)}
    (plain : (Datum.model serial fields).Plain classes classOf) :
    toValue (.model serial fields) =
      convert (ofParts ((setFields fields).map fun field => (field.1, field.2.unfold))) := by
  obtain ⟨hasRecord, plainFields⟩ := plain
  obtain ⟨-, -, -, -, distinct⟩ := hasRecord.exists_type
  have sameValues : (setFields fields).map (fun field => (field.1, field.2.expand)) =
      (setFields fields).map fun field => (field.1, field.2.unfold) := by
    refine List.map_congr_left fun entry present => ?_
    obtain ⟨field, among, rfl⟩ := List.mem_map.mp present
    rw [expand_of_plain (plain_of_mem plainFields field (List.mem_filter.mp among).1)]
  rw [toValue, unfold, if_pos (fieldsExpandable_of_plain plainFields), expand_model,
    Keyed.merge_of_nodup (nodup_setFields distinct), sameValues]

/-! ## What records are converted to -/

theorem setFields_cons
    {label : FieldName}
    {item : Datum}
    (notNull : item ≠ .null)
    (fields : List (FieldName × Datum)) :
    setFields ((label, item) :: fields) = (label.key, item) :: setFields fields := by
  have isSet : item.isNull = false := by
    unfold isNull
    split
    case h_1 => exact absurd rfl notNull
    case h_2 => rfl
  simp [setFields, isSet]

mutual

/-- The value that plain data is converted to shows it. -/
theorem shows_of_convert
    {datum value : Datum}
    (plain : datum.Plain classes classOf)
    (made : datum.toValue = .ok value) :
    Shows classes classOf datum value := by
  match datum with
  | .null =>
    obtain rfl := Except.ok.inj made
    exact .null
  | .scalar given =>
    rw [toValue, unfold, convert] at made
    · split at made
      case h_1 isLiteral =>
        obtain rfl := Except.ok.inj made
        exact .scalar isLiteral
      case h_2 => cases made
    all_goals nofun
  | .member family name other others =>
    obtain ⟨label, named, checked⟩ := bind_eq_ok_iff.mp made
    obtain ⟨-, rfl⟩ := Node.of_checkName named
    split at checked
    case isTrue => cases checked
    case isFalse =>
      obtain rfl := Except.ok.inj checked
      exact .member family name other others
  | .list items =>
    obtain ⟨values, converted, same⟩ := bind_eq_ok_iff.mp made
    obtain rfl := Except.ok.inj same
    exact .list (showsItems_of_convert plain converted)
  | .tuple items =>
    obtain ⟨values, converted, same⟩ := bind_eq_ok_iff.mp made
    obtain rfl := Except.ok.inj same
    exact .tuple (showsItems_of_convert plain converted)
  | .dict entries =>
    obtain ⟨objectFields, converted, checked⟩ := bind_eq_ok_iff.mp made
    obtain ⟨-, -, same⟩ := bind_eq_ok_iff.mp checked
    obtain rfl := Except.ok.inj same
    exact .dict (showsEntries_of_convert plain converted)
  | .model serial fields =>
    rw [toValue_plainRecord plain] at made
    obtain ⟨objectFields, converted, checked⟩ := bind_eq_ok_iff.mp made
    obtain ⟨-, -, same⟩ := bind_eq_ok_iff.mp checked
    obtain rfl := Except.ok.inj same
    obtain ⟨hasRecord, plainFields⟩ := plain
    obtain ⟨type, described, describes, -, -⟩ := hasRecord.exists_type
    rw [List.map_map] at converted
    exact .model described (showsFields_of_convert plainFields describes converted)

theorem showsItems_of_convert
    {items values : List Datum}
    (plain : AllPlain classes classOf items)
    (made : convertItems (unfoldItems items) = .ok values) :
    ShowsItems classes classOf items values := by
  match items with
  | [] =>
    obtain rfl := Except.ok.inj made
    exact .nil
  | item :: items =>
    obtain ⟨value, converted, made⟩ := bind_eq_ok_iff.mp made
    obtain ⟨values, convertedRest, same⟩ := bind_eq_ok_iff.mp made
    obtain rfl := Except.ok.inj same
    exact .cons (shows_of_convert plain.1 converted)
      (showsItems_of_convert plain.2 convertedRest)

theorem showsEntries_of_convert
    {entries : List (Datum × Datum)}
    {objectFields : List Datum}
    (plain : EntriesPlain classes classOf entries)
    (made : convertEntries (unfoldEntries entries) = .ok objectFields) :
    ShowsEntries classes classOf entries objectFields := by
  match entries with
  | [] =>
    obtain rfl := Except.ok.inj made
    exact .nil
  | (key, item) :: entries =>
    rw [unfoldEntries, convertEntries_eq, List.mapM_cons, ← convertEntries_eq] at made
    obtain ⟨objectField, madeFirst, made⟩ := bind_eq_ok_iff.mp made
    obtain ⟨rest, madeRest, same⟩ := bind_eq_ok_iff.mp made
    obtain rfl := Except.ok.inj same
    obtain ⟨label, value, isLabel, converted, rfl⟩ := exists_convertEntry madeFirst
    exact .cons isLabel (shows_of_convert plain.1 converted)
      (showsEntries_of_convert plain.2 madeRest)

theorem showsFields_of_convert
    {describeds : List FieldDescription}
    {fields : List (FieldName × Datum)}
    {objectFields : List Datum}
    (plain : FieldsPlain classes classOf fields)
    (describes : List.Forall₂ FieldDescription.Describes describeds fields)
    (made : convertEntries ((setFields fields).map fun field =>
      (.text field.1, field.2.unfold)) = .ok objectFields) :
    ShowsFields classes classOf describeds fields objectFields := by
  match fields with
  | [] =>
    obtain rfl := Except.ok.inj made
    obtain rfl := List.forall₂_nil_right_iff.mp describes
    exact .nil
  | (label, item) :: fields =>
    obtain ⟨described, rest, isDescribed, describesRest, rfl⟩ :=
      List.forall₂_cons_right_iff.mp describes
    by_cases isNull : item = .null
    · subst isNull
      exact .unset isDescribed.sourceName (showsFields_of_convert plain.2 describesRest made)
    · rw [setFields_cons isNull, List.map_cons, convertEntries_eq, List.mapM_cons,
        ← convertEntries_eq] at made
      obtain ⟨objectField, madeFirst, made⟩ := bind_eq_ok_iff.mp made
      obtain ⟨objectFields, madeRest, same⟩ := bind_eq_ok_iff.mp made
      obtain rfl := Except.ok.inj same
      obtain ⟨value, converted, rfl⟩ := convertEntry_text madeFirst
      exact .set isDescribed.sourceName isDescribed.name isNull converted
        (shows_of_convert plain.1 converted)
        (showsFields_of_convert plain.2 describesRest madeRest)

end

/-- A dictionary is converted if its entries are and have different names. -/
theorem exists_convert_ofParts
    {parts : List (String × Datum)}
    (distinct : (parts.map (·.1)).Nodup)
    (convertible : ∀ part ∈ parts, ∃ field, convertEntry (.text part.1, part.2) = .ok field) :
    ∃ value, convert (ofParts parts) = .ok value := by
  obtain ⟨objectFields, made⟩ : ∃ objectFields,
      convertEntries (parts.map fun part => (.text part.1, part.2)) = .ok objectFields := by
    rw [convertEntries_eq, exists_mapM_iff]
    exact List.forall_mem_map.mpr convertible
  obtain ⟨named, rfl, sameNames⟩ := convertEntries_named made
  have unique : Node.checkDistinct "input field" "input object" []
      (named.map fun field => .objectField (.plain field.1) field.2) = .ok () :=
    @checkDistinct_named _ _ [] named (sameNames ▸ distinct) nofun
  refine ⟨.objectValue (.tuple (named.map fun field => .objectField (.plain field.1) field.2)), ?_⟩
  rw [ofParts, convert, made, ok_bind, Node.objectValue, Node.checkUnique]
  change (Node.checkDistinct _ _ [] _ >>= _) = _
  rw [unique]
  rfl

/-- A record is converted if the values of its fields are, and its value is then the object
that is described: with the fields of which the record has a value, under their names in
the schema and in their order there, and so for all records inside. -/
theorem toValue_instance
    {serial : Nat}
    {fields : List (FieldName × Datum)}
    (plain : (Datum.model serial fields).Plain classes classOf)
    (convertible : ∀ field ∈ fields, ∃ value, field.2.toValue = .ok value) :
    ∃ value, toValue (.model serial fields) = .ok value ∧
      Shows classes classOf (.model serial fields) value := by
  suffices ∃ value, toValue (.model serial fields) = .ok value by
    obtain ⟨value, made⟩ := this
    exact ⟨value, made, shows_of_convert plain made⟩
  obtain ⟨-, -, -, named, distinct⟩ := plain.1.exists_type
  have convertsField : ∀ part ∈ (setFields fields).map fun field => (field.1, field.2.unfold),
      ∃ objectField, convertEntry (.text part.1, part.2) = .ok objectField := by
    intro part present
    obtain ⟨entry, isEntry, rfl⟩ := List.mem_map.mp present
    obtain ⟨field, among, rfl⟩ := List.mem_map.mp isEntry
    have isField := (List.mem_filter.mp among).1
    obtain ⟨value, converted⟩ := convertible field isField
    have accepted := Name.accepts_of_isName (named field isField)
    refine ⟨.objectField (.plain field.1.key) value, ?_⟩
    rw [convertEntry, show convert field.2.unfold = .ok value from converted, ok_bind,
      Node.objectField, Node.checkName_of_accepts accepted]
    rfl
  have distinctParts :
      (((setFields fields).map fun field => (field.1, field.2.unfold)).map (·.1)).Nodup := by
    rw [List.map_map]
    exact nodup_setFields distinct
  rw [toValue_plainRecord plain]
  exact exists_convert_ofParts distinctParts convertsField

/-- A person with an inherited field, a nickname that is not set, and a list of homes. -/
theorem toValue_instance_person :
    let field (name : String) (type : Schema.FieldType) (alias? : Option String) :
      Schema.FieldSpec := ⟨name, type, alias?, .null, .null, []⟩
    let specs : List Schema.ClassSpec :=
      [⟨"Home", .model, none, [field "city" (.scalar .str) (some "cityName")], []⟩,
        ⟨"Named", .model, none, [field "name" (.scalar .str) none], []⟩,
        ⟨"Person", .model, some "Named",
          [field "nick" (.union [.scalar .str, .noneType]) (some "nickName"),
            field "homes" (.listOf (.declared 0 "Home")) (some "all")], []⟩]
    let home (city : String) (serial : Nat) : Datum :=
      .model serial [(⟨"city", some "cityName"⟩, .text city)]
    let person : Datum := .model 0 [(⟨"name", none⟩, .text "Ada"),
      (⟨"nick", some "nickName"⟩, .null), (⟨"homes", some "all"⟩, .list [home "Paris" 1])]
    ∃ classes classOf value, Schema.declareAll specs = .ok classes ∧
      (∀ serial, classOf serial ∈ classes) ∧ person.toValue = .ok value ∧
      Shows classes classOf person value := by
  intro field specs home person
  let homeClass : Schema.Class :=
    ⟨"Home", .model, [(field "city" (.scalar .str) (some "cityName")).modelField], none, []⟩
  let namedClass : Schema.Class :=
    ⟨"Named", .model, [(field "name" (.scalar .str) none).modelField], none, []⟩
  let personClass : Schema.Class :=
    ⟨"Person", .model, [(field "name" (.scalar .str) none).modelField,
      (field "nick" (.union [.scalar .str, .noneType]) (some "nickName")).modelField,
      (field "homes" (.listOf (.declared 0 "Home")) (some "all")).modelField], none, []⟩
  let classes := [homeClass, namedClass, personClass]
  let classOf (serial : Nat) : Schema.Class := if serial = 0 then personClass else homeClass
  have declared : Schema.declareAll specs = .ok classes := by
    simp only [Schema.declareAll, List.foldlM, specs, field]
    rfl
  have among (serial : Nat) : classOf serial ∈ classes := by
    by_cases isPerson : serial = 0
    · simp [classOf, isPerson, classes]
    · simp [classOf, isPerson, classes]
  have ofHome (city : String) : homeClass.HasRecord classes
      [(⟨"city", some "cityName"⟩, .text city)] :=
    ⟨.cons (field "city" (.scalar .str) (some "cityName")).labels_modelField .nil, by simp,
      _, ["cityName"], rfl, rfl, by decide, by decide⟩
  have ofPerson : personClass.HasRecord classes [(⟨"name", none⟩, .text "Ada"),
      (⟨"nick", some "nickName"⟩, .null),
      (⟨"homes", some "all"⟩, .list [home "Paris" 1])] := by
    obtain ⟨type, described, named⟩ : ∃ type, personClass.describe classes = .ok type ∧
        type.fields.map FieldDescription.name = ["name", "nickName", "all"].map .text := by
      simp only [personClass, classes, homeClass, namedClass, field]
      exact ⟨_, rfl, rfl⟩
    exact ⟨.cons ⟨rfl, rfl⟩ (.cons ⟨rfl, rfl⟩ (.cons ⟨rfl, rfl⟩ .nil)), by simp,
      type, _, described, named, by decide, by decide⟩
  have plain : person.Plain classes classOf :=
    ⟨ofPerson, trivial, trivial, ⟨⟨ofHome "Paris", trivial, trivial⟩, trivial⟩, trivial⟩
  obtain ⟨value, made, shows⟩ := toValue_instance plain (by
    simp only [List.forall_mem_cons]
    exact ⟨⟨_, rfl⟩, ⟨_, rfl⟩, ⟨_, rfl⟩, List.forall_mem_nil _⟩)
  exact ⟨classes, classOf, value, declared, among, made, shows⟩

end Datum
end GraphQL
