import GraphQL.Proofs.Data.Keyed
import GraphQL.Proofs.Outcome
import GraphQL.Proofs.Text.Name
import GraphQL.Schema.Class

/-!
# The names in declared classes

Classes are declared one after another, and each may extend one that is there already.
Whatever the declarations are, the fields of a class have different names in the class,
and the name that a field has in the schema comes from its declaration on one of five
routes.  Only a name that is given for the schema has passed the gate for names on its
way, and so has the name that a mark gives a type.
-/

namespace GraphQL
namespace Schema

open Outcome
open Text

/-- Classes that are declared one after another. -/
def declareAll (specs : List ClassSpec) : Except SchemaFault (List Class) :=
  specs.foldlM declare []

/-! ## Routes of names -/

/-- Where the name that a field has in the schema comes from. -/
inductive FieldSpec.Route (spec : FieldSpec) : Option Datum → Prop
  /-- The field goes by its own name. -/
  | own : Route spec none
  /-- A field of a model goes by its alias, any text but the empty one. -/
  | alias {name : String} :
      spec.alias? = some name →
      name ≠ "" →
      Route spec (some (.text name))
  /-- A field of a record goes by a name that is given for it, which passes the gate. -/
  | given {name : String} :
      spec.schemaName.asText? = some name →
      Name.IsNameLine name →
      Route spec (some (.text name))
  /-- A field of a record goes by the name that is noted with it, which can be any
  data. -/
  | noted {name : Datum} :
      spec.schemaName.isNull = true →
      spec.note? "graphql_name" = some name →
      Route spec (some name)
  /-- A field of a record that is a model goes by the alias that is noted with it, which
  can be any text but the empty one. -/
  | notedAlias {name : Datum} :
      spec.note? "alias" = some name →
      name.asText?.isSome = true →
      Route spec (some name)

/-- The field is named by its declaration, in the class and in the schema. -/
def FieldSpec.Names (spec : FieldSpec) (field : Field) : Prop :=
  field.name = spec.name ∧ spec.Route field.schemaName?

/-- The field is named by one of some declarations. -/
def NamedAmong (specs : List FieldSpec) (field : Field) : Prop :=
  ∃ spec ∈ specs, spec.Names field

theorem checkName_eq_ok_iff {kind given name : String} :
    checkName kind given = .ok name ↔ given = name ∧ Name.IsNameLine given := by
  rw [checkName, ← Name.accepts_iff]
  cases accepted : Name.accepts given with
  | false => simp
  | true => simp

theorem checkNameOf_eq_ok_iff
    {kind name : String}
    {given : Datum} :
    checkNameOf kind given = .ok name ↔ given.asText? = some name ∧ Name.IsNameLine name := by
  rw [checkNameOf]
  cases isText : given.asText? with
  | some text =>
    simp only [checkName_eq_ok_iff, Option.some.injEq]
    exact and_congr_right fun same => by rw [same]
  | none =>
    split_ifs
    · simp
    · simp

theorem FieldSpec.names_modelField (spec : FieldSpec) : spec.Names spec.modelField := by
  refine ⟨rfl, ?_⟩
  rw [modelField]
  cases found : spec.alias? with
  | none => exact .own
  | some name =>
    by_cases empty : name = ""
    · rw [empty]
      exact .own
    · have kept : (some name).filter (· ≠ "") = some name := by simp [Option.filter, empty]
      rw [kept]
      exact .alias found empty

theorem FieldSpec.names_recordField
    {kind : ClassKind}
    {spec : FieldSpec}
    {field : Field}
    (made : spec.recordField kind = .ok field) :
    spec.Names field := by
  unfold recordField at made
  extract_lets description finish at made
  obtain ⟨name?, route, made⟩ : ∃ name?, spec.Route name? ∧ finish name? = .ok field := by
    split at made
    case isTrue isNull =>
      refine ⟨_, ?_, made⟩
      cases noted : spec.note? "graphql_name" with
      | none => exact .own
      | some name => exact .noted isNull noted
    case isFalse =>
      obtain ⟨name?, gated, made⟩ := bind_eq_ok_iff.mp made
      obtain ⟨name, checked, rfl⟩ := map_eq_ok_iff.mp gated
      refine ⟨_, ?_, made⟩
      obtain ⟨isText, isNameLine⟩ := checkNameOf_eq_ok_iff.mp checked
      exact .given isText isNameLine
  obtain rfl := Except.ok.inj made
  refine ⟨rfl, ?_⟩
  by_cases isModel : kind = .model
  · rw [if_pos isModel]
    cases found : spec.notedAlias? with
    | none => exact .own
    | some name =>
      obtain ⟨noted, isText⟩ := Option.filter_eq_some_iff.mp found
      rw [Bool.and_eq_true] at isText
      exact .notedAlias noted isText.1
  · rw [if_neg isModel]
    exact route

/-- Every field that is declared in a class is named by its declaration. -/
theorem Class.namedAmong_of_ownFields
    {spec : ClassSpec}
    {base? : Option Class}
    {own : List Field}
    (made : ownFields spec base? = .ok own) :
    ∀ field ∈ own, NamedAmong spec.fields field := by
  have ofModel : ∀ field ∈ spec.fields.map FieldSpec.modelField,
      NamedAmong spec.fields field := by
    intro field present
    obtain ⟨declared, isDeclared, rfl⟩ := List.mem_map.mp present
    exact ⟨declared, isDeclared, declared.names_modelField⟩
  unfold ownFields at made
  split at made
  case h_1 =>
    obtain ⟨fields, madeFields, made⟩ := bind_eq_ok_iff.mp made
    obtain ⟨-, -, made⟩ := bind_eq_ok_iff.mp made
    obtain ⟨-, -, made⟩ := bind_eq_ok_iff.mp made
    obtain ⟨-, -, same⟩ := bind_eq_ok_iff.mp made
    obtain rfl := Except.ok.inj same
    intro field present
    obtain ⟨declared, isDeclared, madeField⟩ :=
      exists_of_mem_forall₂ (mapM_eq_ok_iff.mp madeFields) present
    exact ⟨declared, isDeclared, FieldSpec.names_recordField madeField⟩
  case h_2 =>
    obtain ⟨-, -, made⟩ := bind_eq_ok_iff.mp made
    obtain ⟨-, -, same⟩ := bind_eq_ok_iff.mp made
    obtain rfl := Except.ok.inj same
    exact ofModel
  case h_3 =>
    obtain ⟨-, -, same⟩ := bind_eq_ok_iff.mp made
    obtain rfl := Except.ok.inj same
    exact ofModel

/-! ## Fields of a class -/

namespace Class

theorem insertField_eq (field : Field) (fields : List Field) :
    (insertField field fields).map (fun other => (other.name, other)) =
      Keyed.put field.name field (fields.map fun other => (other.name, other)) := by
  induction fields with
  | nil => rfl
  | cons other fields inductionHypothesis =>
    rw [insertField, List.map_cons, Keyed.put]
    split
    case isTrue same => rw [List.map_cons, same]
    case isFalse => rw [List.map_cons, inductionHypothesis]

theorem names_insertField (field : Field) (fields : List Field) :
    (insertField field fields).map Field.name =
      (Keyed.put field.name field (fields.map fun other => (other.name, other))).map (·.1) := by
  rw [← insertField_eq, List.map_map]
  rfl

/-- Fields of different names stay so with one more field. -/
theorem nodup_insertField
    {field : Field}
    {fields : List Field}
    (distinct : (fields.map Field.name).Nodup) :
    ((insertField field fields).map Field.name).Nodup := by
  rw [names_insertField]
  refine Keyed.nodup_keys_put ?_
  rwa [List.map_map]

theorem mem_insertField
    {field other : Field}
    {fields : List Field}
    (present : other ∈ insertField field fields) :
    other = field ∨ other ∈ fields := by
  have among : (other.name, other) ∈
      Keyed.put field.name field (fields.map fun other => (other.name, other)) := by
    rw [← insertField_eq]
    exact List.mem_map_of_mem present
  rcases Keyed.mem_put among with same | before
  · exact .inl (Prod.mk.inj same).2
  · obtain ⟨_, isField, same⟩ := List.mem_map.mp before
    exact .inr ((Prod.mk.inj same).2 ▸ isField)

theorem nodup_mergeFields
    {fields own : List Field}
    (distinct : (fields.map Field.name).Nodup) :
    ((mergeFields fields own).map Field.name).Nodup := by
  induction own generalizing fields with
  | nil => exact distinct
  | cons field own inductionHypothesis => exact inductionHypothesis (nodup_insertField distinct)

theorem mem_mergeFields
    {fields own : List Field}
    {other : Field}
    (present : other ∈ mergeFields fields own) :
    other ∈ own ∨ other ∈ fields := by
  induction own generalizing fields with
  | nil => exact .inr present
  | cons field own inductionHypothesis =>
    rcases inductionHypothesis present with later | before
    · exact .inl (List.mem_cons_of_mem _ later)
    · rcases mem_insertField before with rfl | among
      · exact .inl List.mem_cons_self
      · exact .inr among

theorem retype_name (own : List FieldSpec) (field : Field) :
    (retype own field).name = field.name := by
  rw [retype]
  split <;> rfl

theorem retype_schemaName? (own : List FieldSpec) (field : Field) :
    (retype own field).schemaName? = field.schemaName? := by
  rw [retype]
  split <;> rfl

/-- The names of a class are what the declarations make them: its fields have different
names in the class and each is named by its declaration, the class has a declared name,
and the name that a mark gives its type has passed the gate. -/
structure Sound (specs : List ClassSpec) (cls : Class) : Prop where
  /-- The fields have different names in the class. -/
  distinct : (cls.fields.map Field.name).Nodup
  /-- Every field is named by a declaration. -/
  named : ∀ field ∈ cls.fields, ∃ spec ∈ specs, NamedAmong spec.fields field
  /-- The class has a name that is declared. -/
  called : ∃ spec ∈ specs, cls.name = spec.name
  /-- The name that a mark gives the type has passed the gate. -/
  gated : ∀ mark ∈ cls.type?, ∀ name ∈ mark.name?, Name.IsNameLine name

theorem Sound.mono
    {specs more : List ClassSpec}
    {cls : Class}
    (sound : cls.Sound specs)
    (among : ∀ spec ∈ specs, spec ∈ more) :
    cls.Sound more where
  distinct := sound.distinct
  named field present :=
    let ⟨spec, isSpec, named⟩ := sound.named field present
    ⟨spec, among spec isSpec, named⟩
  called :=
    let ⟨spec, isSpec, called⟩ := sound.called
    ⟨spec, among spec isSpec, called⟩
  gated := sound.gated

/-- The fields that a class has from its base are those of the base, or there are none. -/
theorem inherited_eq (kind : ClassKind) (base? : Option Class) :
    inherited kind base? = [] ∨ ∃ base ∈ base?, inherited kind base? = base.fields := by
  cases base? with
  | none => exact .inl rfl
  | some base =>
    rw [inherited]
    split
    case isTrue => exact .inr ⟨base, rfl, rfl⟩
    case isFalse => exact .inl rfl

/-- The fields that a class has from a sound base have different names and are named by
declarations. -/
theorem inherited_sound
    {specs : List ClassSpec}
    {base? : Option Class}
    (kind : ClassKind)
    (sound : ∀ base ∈ base?, base.Sound specs) :
    ((inherited kind base?).map Field.name).Nodup ∧
      ∀ field ∈ inherited kind base?, ∃ spec ∈ specs, NamedAmong spec.fields field := by
  rcases inherited_eq kind base? with none | ⟨base, isBase, same⟩
  · simp [none]
  · rw [same]
    exact ⟨(sound base isBase).distinct, (sound base isBase).named⟩

/-- The fields of a declared class have different names and are named by
declarations. -/
theorem resolvedFields_sound
    {specs : List ClassSpec}
    {spec : ClassSpec}
    {base? : Option Class}
    {own : List Field}
    (sound : ∀ base ∈ base?, base.Sound specs)
    (ownNamed : ∀ field ∈ own, NamedAmong spec.fields field) :
    ((resolvedFields spec base? own).map Field.name).Nodup ∧
      ∀ field ∈ resolvedFields spec base? own,
        ∃ declared ∈ specs ++ [spec], NamedAmong declared.fields field := by
  have ofMerged (kind : ClassKind) :
      ((mergeFields (inherited kind base?) own).map Field.name).Nodup ∧
        ∀ field ∈ mergeFields (inherited kind base?) own,
          ∃ declared ∈ specs ++ [spec], NamedAmong declared.fields field := by
    obtain ⟨distinct, named⟩ := inherited_sound kind sound
    refine ⟨nodup_mergeFields distinct, fun field present => ?_⟩
    rcases mem_mergeFields present with isOwn | isInherited
    · exact ⟨spec, by simp, ownNamed field isOwn⟩
    · obtain ⟨declared, isDeclared, isNamed⟩ := named field isInherited
      exact ⟨declared, by simp [isDeclared], isNamed⟩
  unfold resolvedFields
  split
  case h_1 => exact ofMerged .model
  case h_2 =>
    split
    case isFalse => exact ofMerged .record
    case isTrue =>
      obtain ⟨distinct, named⟩ := inherited_sound .record sound
      constructor
      · rw [List.map_map]
        simpa [Function.comp_def, retype_name] using distinct
      · intro field present
        obtain ⟨before, isBefore, rfl⟩ := List.mem_map.mp present
        obtain ⟨declared, isDeclared, origin, isOrigin, sameName, route⟩ := named before isBefore
        refine ⟨declared, by simp [isDeclared], origin, isOrigin, ?_, ?_⟩
        · rwa [retype_name]
        · rwa [retype_schemaName?]
  case h_3 => simp

/-- A mark changes neither the fields nor the name of a class, and a name that it gives
has passed the gate. -/
theorem Sound.addMark
    {specs : List ClassSpec}
    {cls marked : Class}
    {mark : Mark}
    (sound : cls.Sound specs)
    (made : cls.addMark mark = .ok marked) :
    marked.Sound specs := by
  cases mark with
  | order names =>
    obtain rfl := Except.ok.inj made
    exact ⟨sound.distinct, sound.named, sound.called, sound.gated⟩
  | type mark =>
    unfold Class.addMark at made
    dsimp only at made
    split at made
    case h_1 name isName =>
      obtain ⟨checked, passes, rfl⟩ := map_eq_ok_iff.mp made
      refine ⟨sound.distinct, sound.named, sound.called, ?_⟩
      rintro _ ⟨⟩ other isOther
      obtain rfl := Option.some.inj (isName.symm.trans isOther)
      exact (checkName_eq_ok_iff.mp passes).2
    case h_2 isNone =>
      obtain rfl := Except.ok.inj made
      refine ⟨sound.distinct, sound.named, sound.called, ?_⟩
      rintro _ ⟨⟩ name isName
      cases isNone.symm.trans isName

theorem Sound.addMarks
    {specs : List ClassSpec}
    {cls marked : Class}
    {marks : List Mark}
    (sound : cls.Sound specs)
    (made : cls.addMarks marks = .ok marked) :
    marked.Sound specs := by
  induction marks generalizing cls with
  | nil => exact Except.ok.inj made ▸ sound
  | cons mark marks inductionHypothesis =>
    obtain ⟨first, madeFirst, madeRest⟩ := bind_eq_ok_iff.mp made
    exact inductionHypothesis (sound.addMark madeFirst) madeRest

end Class

/-- The name of the type that a class is was declared, or has passed the gate. -/
theorem Class.Sound.typeName
    {specs : List ClassSpec}
    {cls : Class}
    (sound : cls.Sound specs) :
    (∃ spec ∈ specs, cls.typeName = spec.name) ∨ Name.IsNameLine cls.typeName := by
  rw [Class.typeName]
  cases isMarked : cls.type?.bind TypeMark.name? with
  | none => exact .inl sound.called
  | some name =>
    obtain ⟨mark, isMark, isName⟩ := Option.bind_eq_some_iff.mp isMarked
    exact .inr (sound.gated mark isMark name isName)

/-! ## Declarations one after another -/

/-- A declaration adds one class, which is sound if all classes before it are. -/
theorem exists_declare
    {specs : List ClassSpec}
    {spec : ClassSpec}
    {classes more : List Class}
    (sound : ∀ cls ∈ classes, cls.Sound specs)
    (made : declare classes spec = .ok more) :
    ∃ cls, more = classes ++ [cls] ∧ cls.Sound (specs ++ [spec]) := by
  obtain ⟨own, madeOwn, made⟩ := bind_eq_ok_iff.mp made
  split at made
  case isTrue => cases made
  case isFalse =>
    obtain ⟨cls, marked, same⟩ := bind_eq_ok_iff.mp made
    obtain rfl := Except.ok.inj same
    have soundBase : ∀ base ∈ spec.base?.bind (find? classes), base.Sound specs := by
      intro base isBase
      obtain ⟨name, -, found⟩ := Option.bind_eq_some_iff.mp isBase
      exact sound base (List.mem_reverse.mp (List.mem_of_find?_eq_some found))
    obtain ⟨distinct, named⟩ :=
      Class.resolvedFields_sound soundBase (Class.namedAmong_of_ownFields madeOwn)
    have soundUnmarked : Class.Sound (specs ++ [spec])
        ⟨spec.name, Class.resolvedKind spec (spec.base?.bind (find? classes)),
          Class.resolvedFields spec (spec.base?.bind (find? classes)) own, none, []⟩ :=
      ⟨distinct, named, ⟨spec, by simp, rfl⟩, nofun⟩
    exact ⟨cls, rfl, soundUnmarked.addMarks marked⟩

/-- Every class of a run of declarations is sound. -/
theorem sound_of_declareAll
    {specs : List ClassSpec}
    {classes : List Class}
    (made : declareAll specs = .ok classes) :
    ∀ cls ∈ classes, cls.Sound specs := by
  rw [declareAll] at made
  induction specs using List.reverseRecOn generalizing classes with
  | nil =>
    obtain rfl := Except.ok.inj made
    simp
  | append_singleton specs spec inductionHypothesis =>
    rw [List.foldlM_append] at made
    obtain ⟨before, madeBefore, madeLast⟩ := bind_eq_ok_iff.mp made
    obtain ⟨more, madeMore, same⟩ := bind_eq_ok_iff.mp madeLast
    obtain rfl := Except.ok.inj same
    have soundBefore := inductionHypothesis madeBefore
    obtain ⟨added, rfl, soundAdded⟩ := exists_declare soundBefore madeMore
    intro cls present
    rcases List.mem_append.mp present with isBefore | isAdded
    · exact (soundBefore cls isBefore).mono (by simp +contextual)
    · exact List.mem_singleton.mp isAdded ▸ soundAdded

end Schema
end GraphQL
