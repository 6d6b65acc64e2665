import GraphQL.Proofs.Data.Record
import GraphQL.Proofs.Outcome
import GraphQL.Request.Node
import Mathlib.Data.List.Nodup

/-!
# Names that are kept apart

An owner of named children, or a document of named definitions, is only made if no two of
them have one name.  Names are compared as data, where an enum member that counts as a
text equals that text, so different names are different texts.
-/

namespace GraphQL

open Outcome

namespace Datum

/-! ## Names that count as texts -/

theorem asText?_eq_some_iff {given : Datum} {shared : String} :
    given.asText? = some shared ↔ given = .text shared ∨
      ∃ family name others, family.mixin = .text ∧
        given = .member family name (.text shared) others := by
  constructor
  · intro isText
    unfold asText? at isText
    split at isText
    case h_1 => exact .inl (by rw [Option.some.inj isText])
    case h_2 family name _ others =>
      split at isText
      case isTrue isTextFamily =>
        exact .inr ⟨family, name, others, isTextFamily, by rw [Option.some.inj isText]⟩
      case isFalse => cases isText
    case h_3 => cases isText
  · rintro (rfl | ⟨family, name, others, isTextFamily, rfl⟩)
    · rfl
    · exact if_pos isTextFamily

/-- Data that counts as one text is the same. -/
theorem same_of_asText?
    {first second : Datum}
    {shared : String}
    (isText : first.asText? = some shared)
    (isTextToo : second.asText? = some shared) :
    first.same second = true := by
  have sameTexts : (Scalar.text shared).same (.text shared) = true := by
    simpa [same] using same_text shared shared
  rcases asText?_eq_some_iff.mp isText with rfl | ⟨_, _, _, isTextFamily, rfl⟩ <;>
    rcases asText?_eq_some_iff.mp isTextToo with rfl | ⟨_, _, _, isTextFamilyToo, rfl⟩
  · simpa [same] using sameTexts
  · simpa [same, mixedIn?, isTextFamilyToo] using sameTexts
  · simpa [same, sameMixed, mixedIn?, isTextFamily] using sameTexts
  · simp [same, sameMixed, mixedIn?, isTextFamily, isTextFamilyToo, sameTexts]

/-- The name of an item, if it has one that counts as a text. -/
def nameText? (item : Datum) : Option String :=
  (item.part? "name").bind asText?

/-- The names of the items of a collection. -/
def itemNames (given : Datum) : List String :=
  (given.elements?.getD []).filterMap nameText?

/-- The name of an operation, if it has one. -/
def operationName? : Datum → Option String
  | operation _ name? _ _ _ => name?.map Label.text
  | _ => none

/-- The name of a fragment. -/
def fragmentName? : Datum → Option String
  | fragmentDefinition name _ _ _ => some name.text
  | _ => none

/-- No two children of the node have one name where the node keeps names apart: the
arguments of a field or directive, the fields of an object, the variables of an operation,
and in a document the operations that have a name and the fragments. -/
def KeepsApart : Datum → Prop
  | directive _ arguments | field _ _ arguments _ _ => arguments.itemNames.Nodup
  | objectValue fields => fields.itemNames.Nodup
  | operation _ _ declared _ _ => declared.itemNames.Nodup
  | document definitions =>
    ((definitions.elements?.getD []).filterMap operationName?).Nodup ∧
      ((definitions.elements?.getD []).filterMap fragmentName?).Nodup
  | _ => True

/-! ## Parts and elements that there are -/

theorem part_eq_ok_iff {name : String} {owner found : Datum} :
    owner.part name = .ok found ↔ owner.part? name = some found := by
  unfold part
  split
  case h_1 isPart => rw [isPart, Except.ok.injEq, Option.some.injEq]
  case h_2 noPart => simp [noPart]

theorem elements_eq_ok_iff {given : Datum} {items : List Datum} :
    given.elements = .ok items ↔ given.elements? = some items := by
  unfold elements
  split
  case h_1 found => rw [found, Except.ok.injEq, Option.some.injEq]
  case h_2 none => simp [none]

end Datum

/-! ## Checked collections -/

namespace Node

open Datum

/-- Items have passed the check if the first has a name that was not seen before, and the
others pass the check once it is seen. -/
theorem checkDistinct_cons_eq_ok
    {kind owner : String}
    {seen rest : List Datum}
    {first : Datum}
    (distinct : checkDistinct kind owner seen (first :: rest) = .ok ()) :
    ∃ name, first.part? "name" = some name ∧ (∀ old ∈ seen, name.same old = false) ∧
      checkDistinct kind owner (name :: seen) rest = .ok () := by
  rw [checkDistinct] at distinct
  obtain ⟨name, isPart, distinct⟩ := bind_eq_ok_iff.mp distinct
  obtain ⟨_, -, distinct⟩ := bind_eq_ok_iff.mp distinct
  split at distinct
  case isTrue =>
    obtain ⟨_, -, refused⟩ := bind_eq_ok_iff.mp distinct
    cases refused
  case isFalse isNew => exact ⟨name, part_eq_ok_iff.mp isPart, by simpa using isNew, distinct⟩

/-- Items that have passed the check have names, and none that was seen before. -/
theorem exists_name_of_checkDistinct
    {kind owner : String}
    {seen items : List Datum}
    (distinct : checkDistinct kind owner seen items = .ok ()) :
    ∀ item ∈ items, ∃ name, item.part? "name" = some name ∧
      ∀ old ∈ seen, name.same old = false := by
  induction items generalizing seen with
  | nil => simp
  | cons first rest inductionHypothesis =>
    obtain ⟨name, named, isNew, distinctRest⟩ := checkDistinct_cons_eq_ok distinct
    refine List.forall_mem_cons.mpr ⟨⟨name, named, isNew⟩, ?_⟩
    intro item present
    obtain ⟨other, namedToo, differs⟩ := inductionHypothesis distinctRest item present
    exact ⟨other, namedToo, fun old among => differs old (List.mem_cons_of_mem _ among)⟩

/-- The names of items that have passed the check are different texts. -/
theorem nodup_of_checkDistinct
    {kind owner : String}
    {seen items : List Datum}
    (distinct : checkDistinct kind owner seen items = .ok ()) :
    (items.filterMap nameText?).Nodup := by
  induction items generalizing seen with
  | nil => exact List.nodup_nil
  | cons first rest inductionHypothesis =>
    obtain ⟨name, named, -, distinctRest⟩ := checkDistinct_cons_eq_ok distinct
    have nodupRest := inductionHypothesis distinctRest
    cases isText : nameText? first with
    | none => rwa [List.filterMap_cons_none isText]
    | some text =>
      rw [List.filterMap_cons_some isText]
      refine List.nodup_cons.mpr ⟨?_, nodupRest⟩
      intro again
      obtain ⟨item, present, isTextToo⟩ := List.mem_filterMap.mp again
      obtain ⟨other, namedToo, differs⟩ := exists_name_of_checkDistinct distinctRest item present
      rw [nameText?, named, Option.bind_some] at isText
      rw [nameText?, namedToo, Option.bind_some] at isTextToo
      have sameName := same_of_asText? isTextToo isText
      rw [differs name List.mem_cons_self] at sameName
      cases sameName

theorem nodup_of_checkUnique
    {kind owner : String}
    {given : Datum}
    (unique : checkUnique kind owner given = .ok ()) :
    given.itemNames.Nodup := by
  obtain ⟨items, found, distinct⟩ := bind_eq_ok_iff.mp unique
  rw [itemNames, elements_eq_ok_iff.mp found, Option.getD_some]
  exact nodup_of_checkDistinct distinct

/-- A name that is new and names that are apart from it are apart together. -/
theorem nodup_cons_of_apart
    {name : String}
    {names seen : List String}
    (isNew : name ∉ seen)
    (nodup : names.Nodup)
    (apart : ∀ other ∈ names, other ∉ name :: seen) :
    (name :: names).Nodup ∧ ∀ other ∈ name :: names, other ∉ seen := by
  constructor
  · exact List.nodup_cons.mpr ⟨fun present => apart name present List.mem_cons_self, nodup⟩
  · refine List.forall_mem_cons.mpr ⟨isNew, ?_⟩
    exact fun other present among => apart other present (List.mem_cons_of_mem _ among)

/-- Definitions that have passed the check are operations and fragments, and the names of
each kind are different from one another and from those seen before. -/
theorem nodup_of_checkDefinitions
    {operations fragments : List String}
    {definitions : List Datum}
    (distinct : checkDefinitions operations fragments definitions = .ok ()) :
    ((definitions.filterMap operationName?).Nodup ∧
        ∀ name ∈ definitions.filterMap operationName?, name ∉ operations) ∧
      ((definitions.filterMap fragmentName?).Nodup ∧
        ∀ name ∈ definitions.filterMap fragmentName?, name ∉ fragments) ∧
      ∀ definition ∈ definitions, definition.isOperation = true ∨ definition.isFragment = true := by
  fun_induction checkDefinitions operations fragments definitions with
  | case1 => simp
  | case2 operations fragments kind declared directives selections rest inductionHypothesis =>
    obtain ⟨operationsApart, fragmentsApart, areDefinitions⟩ := inductionHypothesis distinct
    rw [List.filterMap_cons_none rfl, List.filterMap_cons_none rfl]
    exact ⟨operationsApart, fragmentsApart, List.forall_mem_cons.mpr ⟨.inl rfl, areDefinitions⟩⟩
  | case3 | case5 | case7 => cases distinct
  | case4 operations fragments kind name declared directives selections rest isNew
      inductionHypothesis =>
    obtain ⟨⟨nodup, apart⟩, fragmentsApart, areDefinitions⟩ := inductionHypothesis distinct
    have newName : name.text ∉ operations := by simpa using isNew
    have named : operationName? (.operation kind (some name) declared directives selections) =
      some name.text := rfl
    rw [List.filterMap_cons_some named, List.filterMap_cons_none rfl]
    exact ⟨nodup_cons_of_apart newName nodup apart, fragmentsApart,
      List.forall_mem_cons.mpr ⟨.inl rfl, areDefinitions⟩⟩
  | case6 operations fragments name condition directives selections rest isNew
      inductionHypothesis =>
    obtain ⟨operationsApart, ⟨nodup, apart⟩, areDefinitions⟩ := inductionHypothesis distinct
    have newName : name.text ∉ fragments := by simpa using isNew
    have named : fragmentName? (.fragmentDefinition name condition directives selections) =
      some name.text := rfl
    rw [List.filterMap_cons_none rfl, List.filterMap_cons_some named]
    exact ⟨operationsApart, nodup_cons_of_apart newName nodup apart,
      List.forall_mem_cons.mpr ⟨.inr rfl, areDefinitions⟩⟩

end Node
end GraphQL
