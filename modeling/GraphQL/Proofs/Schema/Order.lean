import GraphQL.Proofs.Data.Sameness
import GraphQL.Proofs.Schema.Sdl
import Mathlib.Data.List.Nodup
import Mathlib.Data.List.Perm.Basic

/-!
# The documented order of fields

An order names fields, each name standing for the first field that goes by it in the
schema or in the class.  Documentation lists a field for every name of the order and then
the fields that no name stands for, as they are declared.  So it lists all fields, and a
field as often as the order names it: nothing keeps an order from naming a field twice,
and documentation rearranges the fields exactly if the order does not.
-/

namespace GraphQL
namespace Schema
namespace TypeDescription

open Outcome

/-- The fields that the order names, one for each name. -/
def named (type : TypeDescription) : List FieldDescription :=
  type.order.filterMap type.field?

/-- The fields that the order does not name, as they are declared. -/
def unnamed (type : TypeDescription) : List FieldDescription :=
  type.fields.filter fun field =>
    field.sourceName ∉ type.named.map FieldDescription.sourceName

variable {type : TypeDescription}

theorem mem_fields_of_mem_named
    {field : FieldDescription}
    (isNamed : field ∈ type.named) :
    field ∈ type.fields := by
  obtain ⟨name, -, found⟩ := List.mem_filterMap.mp isNamed
  exact List.mem_of_find?_eq_some found

/-! ## Names that are answered -/

section Answered

variable (answered : ∀ name ∈ type.order, ∃ field ∈ type.fields, field.answersTo name = true)

include answered

/-- Every name of an answered order stands for a field. -/
theorem forall₂_named :
    List.Forall₂ (fun name field => type.field? name = some field) type.order type.named := by
  unfold named
  generalize type.order = order at answered
  induction order with
  | nil => exact .nil
  | cons name order inductionHypothesis =>
    obtain ⟨⟨field, isField, answers⟩, answeredRest⟩ := List.forall_mem_cons.mp answered
    obtain ⟨first, found⟩ : ∃ first, type.field? name = some first :=
      Option.isSome_iff_exists.mp (List.find?_isSome.mpr ⟨field, isField, answers⟩)
    rw [List.filterMap_cons_some found]
    exact .cons found (inductionHypothesis answeredRest)

theorem ordered_eq_map_named : type.ordered = type.named.map some := by
  have same : List.Forall₂ (· = ·) (type.order.map type.field?) (type.named.map some) := by
    rw [List.forall₂_map_left_iff, List.forall₂_map_right_iff]
    exact forall₂_named answered
  rwa [List.forall₂_eq_eq_eq] at same

end Answered

/-! ## Fields with different names in the class -/

section Distinct

variable (distinct : (type.fields.map FieldDescription.sourceName).Nodup)

include distinct

/-- A field is known by its name in the class. -/
theorem eq_iff_of_mem
    {field other : FieldDescription}
    (isField : field ∈ type.fields)
    (isOther : other ∈ type.fields) :
    field.sourceName = other.sourceName ↔ field = other :=
  ⟨fun same => List.inj_on_of_nodup_map distinct isField isOther same, fun same => same ▸ rfl⟩

/-- Fields that compare as equal are one field. -/
theorem beq_iff_of_mem
    {field other : FieldDescription}
    (isField : field ∈ type.fields)
    (isOther : other ∈ type.fields) :
    (field == other) = true ↔ field = other := by
  change field.same other = true ↔ _
  constructor
  · intro same
    refine (eq_iff_of_mem distinct isField isOther).mp ?_
    simp only [FieldDescription.same, Bool.and_eq_true, decide_eq_true_eq] at same
    exact same.1.1.2
  · rintro rfl
    simp [FieldDescription.same, Datum.same_self]

theorem mem_unnamed_iff
    {field : FieldDescription}
    (isField : field ∈ type.fields) :
    field ∈ type.unnamed ↔ field ∉ type.named := by
  have known : field.sourceName ∈ type.named.map FieldDescription.sourceName ↔
      field ∈ type.named := by
    rw [List.mem_map]
    constructor
    · rintro ⟨other, isNamed, same⟩
      rwa [← (eq_iff_of_mem distinct (mem_fields_of_mem_named isNamed) isField).mp same]
    · exact fun isNamed => ⟨field, isNamed, rfl⟩
  rw [unnamed, List.mem_filter, decide_eq_true_iff, known]
  exact and_iff_right isField

theorem nodup_unnamed : (type.unnamed.map FieldDescription.sourceName).Nodup :=
  (List.filter_sublist.map _).nodup distinct

/-- Documentation lists the fields that an answered order names, and then the others. -/
theorem documented_eq
    (answered : ∀ name ∈ type.order, ∃ field ∈ type.fields, field.answersTo name = true) :
    type.documented = (type.named ++ type.unnamed).map some := by
  rw [documented, ordered_eq_map_named answered, List.map_append]
  congr 2
  refine List.filter_congr fun field isField => ?_
  rw [Bool.eq_iff_iff, Bool.not_eq_true', List.any_eq_false, List.forall_mem_map,
    decide_eq_true_iff, List.mem_map, not_exists]
  refine forall_congr' fun other => (forall_congr' fun isNamed => not_congr ?_).trans not_and.symm
  have isOther := mem_fields_of_mem_named isNamed
  exact (beq_iff_of_mem distinct isOther isField).trans
    (eq_iff_of_mem distinct isOther isField).symm

/-- A field is listed as often as the order names it, and once if it does not. -/
theorem count_sourceName
    {field : FieldDescription}
    (isField : field ∈ type.fields) :
    ((type.named ++ type.unnamed).map FieldDescription.sourceName).count field.sourceName =
      max 1 ((type.named.map FieldDescription.sourceName).count field.sourceName) := by
  rw [List.map_append, List.count_append]
  by_cases isNamed : field.sourceName ∈ type.named.map FieldDescription.sourceName
  · have notListedAgain : field.sourceName ∉ type.unnamed.map FieldDescription.sourceName := by
      intro present
      obtain ⟨other, isUnnamed, same⟩ := List.mem_map.mp present
      have notNamed := of_decide_eq_true (List.mem_filter.mp isUnnamed).2
      rw [same] at notNamed
      exact notNamed isNamed
    have once := List.count_pos_iff.mpr isNamed
    rw [List.count_eq_zero_of_not_mem notListedAgain]
    omega
  · have isUnnamed : field ∈ type.unnamed :=
      List.mem_filter.mpr ⟨isField, decide_eq_true isNamed⟩
    have once := List.count_eq_one_of_mem (nodup_unnamed distinct)
      (List.mem_map_of_mem (f := FieldDescription.sourceName) isUnnamed)
    rw [List.count_eq_zero_of_not_mem isNamed, once]
    rfl

/-- Documentation rearranges the fields exactly if the order names none of them twice. -/
theorem perm_fields_iff :
    (type.named ++ type.unnamed).Perm type.fields ↔ type.named.Nodup := by
  have distinctFields : type.fields.Nodup := List.Nodup.of_map _ distinct
  have distinctUnnamed : type.unnamed.Nodup := List.filter_sublist.nodup distinctFields
  constructor
  · intro rearranged
    exact (List.sublist_append_left _ _).nodup (rearranged.nodup_iff.mpr distinctFields)
  · intro distinctNamed
    have apart : type.named.Disjoint type.unnamed := fun field isNamed isUnnamed =>
      (mem_unnamed_iff distinct (mem_fields_of_mem_named isNamed)).mp isUnnamed isNamed
    rw [List.perm_ext_iff_of_nodup
      (List.Nodup.append distinctNamed distinctUnnamed apart) distinctFields]
    intro field
    rw [List.mem_append]
    constructor
    · rintro (isNamed | isUnnamed)
      · exact mem_fields_of_mem_named isNamed
      · exact (List.mem_filter.mp isUnnamed).1
    · intro isField
      exact or_iff_not_imp_left.mpr (mem_unnamed_iff distinct isField).mpr

end Distinct
end TypeDescription

/-- What documentation lists of a described class.  Every name of the order stands for a
field; these fields are listed first, in the order of the names, and then those that no
name stands for, as they are declared.  A field is listed as often as the order names it,
and once if it does not.  So the fields that documentation lists, and those that are put
into its schema text, are the declared ones rearranged exactly if the order names no field
twice. -/
theorem Class.documented_exact
    {specs : List ClassSpec}
    {classes : List Class}
    {cls : Class}
    {type : TypeDescription}
    (declared : declareAll specs = .ok classes)
    (present : cls ∈ classes)
    (described : cls.describe classes = .ok type) :
    List.Forall₂ (fun name field => type.field? name = some field) type.order type.named ∧
      (type.unnamed.Sublist type.fields ∧
        ∀ field ∈ type.fields, field ∈ type.unnamed ↔ field ∉ type.named) ∧
      type.documented = (type.named ++ type.unnamed).map some ∧
      (∀ field ∈ type.fields,
        ((type.listed true).map FieldDescription.sourceName).count field.sourceName =
          max 1 ((type.named.map FieldDescription.sourceName).count field.sourceName)) ∧
      (type.documented.Perm (type.fields.map some) ↔ type.named.Nodup) ∧
      (∀ documentation, type.sdl documentation = type.sdlWith (type.listed documentation)) ∧
      ((type.listed true).Perm (type.listed false) ↔ type.named.Nodup) := by
  have describes := describe_eq_ok_iff.mp described
  have distinct : (type.fields.map FieldDescription.sourceName).Nodup := by
    rw [describes.sourceNames]
    exact (sound_of_declareAll declared cls present).distinct
  have documented := TypeDescription.documented_eq distinct describes.answered
  have listed : type.listed true = type.named ++ type.unnamed := by
    rw [TypeDescription.listed, if_pos rfl, documented]
    simp
  have rearranged := TypeDescription.perm_fields_iff distinct
  refine ⟨TypeDescription.forall₂_named describes.answered,
    ⟨List.filter_sublist, fun field => TypeDescription.mem_unnamed_iff distinct⟩, documented,
    fun field isField => ?_, ?_, fun _ => rfl, ?_⟩
  · rw [listed]
    exact TypeDescription.count_sourceName distinct isField
  · rw [documented, List.map_perm_map_iff (Option.some_injective _)]
    exact rearranged
  · rw [listed]
    exact rearranged

/-- The order names one field by its alias, which is also what another field is called in
the class, and by its own name.  Documentation lists it twice, and then the other one. -/
theorem Class.documented_exact_twice :
    let first : FieldSpec := ⟨"first", .scalar .str, some "last", .null, .null, []⟩
    let last : FieldSpec := ⟨"last", .scalar .str, none, .null, .null, []⟩
    let spec : ClassSpec := ⟨"Person", .model, none, [first, last], [.order ["last", "first"]]⟩
    ∃ cls type, declareAll [spec] = .ok [cls] ∧ cls.describe [cls] = .ok type ∧
      type.documented.map (Option.map FieldDescription.sourceName) =
        [some "first", some "first", some "last"] ∧
      ¬ type.documented.Perm (type.fields.map some) := by
  intro first last spec
  let cls : Class :=
    ⟨"Person", .model, [first.modelField, last.modelField], none, ["last", "first"]⟩
  let named : FieldDescription := ⟨.text "last", "first", .nonNull (.named "String"), .null⟩
  let other : FieldDescription := ⟨.text "last", "last", .nonNull (.named "String"), .null⟩
  let type : TypeDescription := ⟨"Person", [named, other], none, false, ["last", "first"]⟩
  have declared : declareAll [spec] = .ok [cls] := by
    simp only [declareAll, List.foldlM, spec, first, last]
    rfl
  have answers : named.answersTo "last" = true ∧ named.answersTo "first" = true := by
    decide +kernel
  have described : cls.describe [cls] = .ok type :=
    describe_eq_ok_iff.mpr ⟨.inl rfl, rfl, .cons ⟨rfl, rfl, rfl, rfl⟩
      (.cons ⟨rfl, rfl, rfl, rfl⟩ .nil), rfl, rfl, rfl, by simp [type, answers]⟩
  have isNamed : type.named = [named, named] := by
    simp [TypeDescription.named, TypeDescription.field?, type, answers]
  have isUnnamed : type.unnamed = [other] := by
    simp [TypeDescription.unnamed, isNamed, type, named, other]
  obtain ⟨-, -, documented, -, rearranged, -⟩ :=
    documented_exact declared List.mem_cons_self described
  refine ⟨cls, type, declared, described, ?_, ?_⟩
  · rw [documented, isNamed, isUnnamed]
    rfl
  · rw [rearranged, isNamed]
    simp

end Schema
end GraphQL
