import GraphQL.Proofs.Request.Name
import GraphQL.Proofs.Schema.Description
import GraphQL.Proofs.Source.Parsing.Document

/-!
# Where a field may be null

What a field is declared to hold is a collection inside a collection, down to a scalar or a
class, and at each of these positions nothing may be admitted besides.  Such a declaration
has a place in schemas exactly if every union in it admits one thing besides nothing and
every class in it goes by a name.  Its schema type has a list for each collection, and a
mark at each position that does not admit nothing.
-/

namespace GraphQL
namespace Schema

open Outcome
open Source (TypeRef)
open Text

namespace FieldType

/-! ## Positions -/

/-- The type is nothing, as a class. -/
def isNothing : FieldType → Bool
  | noneType => true
  | _ => false

/-- The type is one of several. -/
def isUnion : FieldType → Bool
  | union _ | alternatives _ => true
  | _ => false

/-- What the type admits besides nothing, if it is one of several, and else the type. -/
def held : FieldType → List FieldType
  | union members | alternatives members => members.filter fun member => !member.isNothing
  | type => [type]

/-- The type is a union that admits nothing besides other things. -/
def isOptional : FieldType → Bool
  | union members | alternatives members => members.any isNothing
  | _ => false

/-- What a collection with a place in schemas holds. -/
def item? : FieldType → Option FieldType
  | collection .dict _ => .none
  | collection _ [item] | listOf item | tupleOf item => some item
  | _ => .none

/-- The name that a declared class goes by in the schema. -/
def className? (classes : List Class) : FieldType → Option String
  | declared place _ => classes[place]?.map Class.typeName
  | _ => .none

/-- The name that a scalar or a class goes by in the schema. -/
def leafName? (classes : List Class) : FieldType → Option String
  | scalar kind => some kind.typeName
  | type => type.className? classes

mutual

/-- The type and all types that it is made of. -/
def parts : FieldType → List FieldType
  | union members => union members :: partsOf members
  | alternatives members => alternatives members :: partsOf members
  | collection kind items => collection kind items :: partsOf items
  | listOf item => listOf item :: parts item
  | tupleOf item => tupleOf item :: parts item
  | type => [type]

/-- All types that some types are made of. -/
def partsOf : List FieldType → List FieldType
  | [] => []
  | type :: types => parts type ++ partsOf types

end

theorem mem_partsOf_iff {part : FieldType} {types : List FieldType} :
    part ∈ partsOf types ↔ ∃ type ∈ types, part ∈ type.parts := by
  induction types with
  | nil => simp [partsOf]
  | cons type types inductionHypothesis => simp [partsOf, inductionHypothesis]

/-- The type is put together from scalars, classes with a place in schemas, collections of
one kind of thing, and unions of such types with nothing, which hold no union themselves. -/
inductive Annotation (classes : List Class) : FieldType → Prop
  | scalar (kind : ScalarClass) : Annotation classes (.scalar kind)
  | declared {place : Nat} {cls : Class} (name : String) :
      classes[place]? = some cls →
      cls.kind ≠ .plain →
      Annotation classes (.declared place name)
  | collection {kind : Collection} {item : FieldType} :
      kind ≠ .dict →
      Annotation classes item →
      Annotation classes (.collection kind [item])
  | listOf {item : FieldType} :
      Annotation classes item →
      Annotation classes (.listOf item)
  | tupleOf {item : FieldType} :
      Annotation classes item →
      Annotation classes (.tupleOf item)
  | union {members : List FieldType} :
      (∀ member ∈ members, member.isUnion = false) →
      (∀ member ∈ members, member.isNothing = false → Annotation classes member) →
      Annotation classes (.union members)
  | alternatives {members : List FieldType} :
      (∀ member ∈ members, member.isUnion = false) →
      (∀ member ∈ members, member.isNothing = false → Annotation classes member) →
      Annotation classes (.alternatives members)

/-- The schema type of a position: marked as being without null unless nothing is admitted
there. -/
def marked (type : FieldType) (inner : TypeRef) : TypeRef :=
  if type.isOptional then inner else .nonNull inner

/-- The schema type has a list for each collection and the name of the scalar or class that
is left, each of them marked unless nothing is admitted at its position. -/
inductive Maps (classes : List Class) : FieldType → TypeRef → Prop
  | named {type core : FieldType} {name : String} :
      type.held = [core] →
      core.leafName? classes = some name →
      Maps classes type (type.marked (.named name))
  | list {type core item : FieldType} {itemType : TypeRef} :
      type.held = [core] →
      core.item? = some item →
      Maps classes item itemType →
      Maps classes type (type.marked (.list itemType))

/-! ## Annotations that are made -/

section Making

variable {classes : List Class}

/-- The type is an annotation or nothing, as what a union is made of. -/
def IsAlternative (classes : List Class) (type : FieldType) : Prop :=
  type.asClass.isNothing = true ∨ Annotation classes type

/-- The type can be a member of a union: it is none itself, and an annotation or nothing. -/
structure IsMember (classes : List Class) (type : FieldType) : Prop where
  /-- Unions hold no unions. -/
  flat : type.isUnion = false
  /-- What is not nothing is an annotation. -/
  annotated : type.isNothing = false → Annotation classes type

theorem mem_distinct {item : FieldType} {items : List FieldType}
    (present : item ∈ distinct items) :
    item ∈ items := by
  have kept (seen : List FieldType) : ∀ other ∈ items.foldl
      (fun seen item => if seen.contains item then seen else seen ++ [item]) seen,
      other ∈ seen ∨ other ∈ items := by
    clear present
    induction items generalizing seen with
    | nil => simp
    | cons first items inductionHypothesis =>
      intro other among
      obtain before | later := inductionHypothesis _ other among
      · dsimp only at before
        split at before
        · exact .inl before
        · obtain isSeen | isFirst := List.mem_append.mp before
          · exact .inl isSeen
          · exact .inr (by simp_all)
      · exact .inr (List.mem_cons_of_mem _ later)
  simpa using kept [] item present

/-- What an annotation or nothing brings to a union can be a member of it. -/
theorem isMember_of_mem_members
    {type member : FieldType}
    (alternative : IsAlternative classes type)
    (present : member ∈ type.members) :
    member.IsMember classes := by
  obtain isNothing | annotated := alternative
  · cases type with
    | none | noneType =>
      obtain rfl := List.mem_singleton.mp present
      exact ⟨rfl, nofun⟩
    | _ => cases isNothing
  · have single (flat : type.isUnion = false) (only : type.members = [type]) :
        member.IsMember classes := by
      rw [only, List.mem_singleton] at present
      exact present ▸ ⟨flat, fun _ => annotated⟩
    cases annotated with
    | union flat annotations | alternatives flat annotations =>
      exact ⟨flat member present, annotations member present⟩
    | scalar | declared | collection | listOf | tupleOf => exact single rfl rfl

/-- Members are put into a union, unless there is one alone. -/
theorem isAlternative_of_isMember
    {make : List FieldType → FieldType}
    (annotated : ∀ members, (∀ member ∈ members, member.IsMember classes) →
      Annotation classes (make members))
    {members : List FieldType}
    (areMembers : ∀ member ∈ members, member.IsMember classes) :
    IsAlternative classes
      (match distinct members with
        | [item] => item
        | items => make items) := by
  have areDistinct : ∀ member ∈ distinct members, member.IsMember classes :=
    fun member present => areMembers member (mem_distinct present)
  split
  case h_1 item only =>
    have isMember := areDistinct item (by simp [only])
    cases isNothing : item.isNothing with
    | false => exact .inr (isMember.annotated isNothing)
    | true =>
      left
      cases item with
      | noneType => rfl
      | _ => cases isNothing
  case h_2 => exact .inr (annotated _ areDistinct)

/-- One of two annotations or nothing is an annotation or nothing. -/
theorem isAlternative_either
    {first second : FieldType}
    (isAlternative : IsAlternative classes first)
    (isAlternativeToo : IsAlternative classes second) :
    IsAlternative classes (first.either second) := by
  refine isAlternative_of_isMember (fun members areMembers => ?_) fun member present => ?_
  · exact .alternatives (fun member among => (areMembers member among).flat)
      fun member among => (areMembers member among).annotated
  · obtain brought | brought := List.mem_append.mp present
    · exact isMember_of_mem_members isAlternative brought
    · exact isMember_of_mem_members isAlternativeToo brought

end Making

/-! ## Schema types of annotations -/

section Annotations

variable {classes : List Class}

theorem memberTypes_eq (members : List FieldType) :
    memberTypes classes members =
      (members.filter fun member => !member.isNothing).map (toTypeRef classes) := by
  induction members with
  | nil => rfl
  | cons member members inductionHypothesis =>
    cases member <;> simp [memberTypes, isNothing, inductionHypothesis]

/-- Every position of the type holds one thing, and every class in it goes by a name. -/
structure Definite (classes : List Class) (type : FieldType) : Prop where
  /-- Every union in the type admits one thing besides nothing. -/
  unions : ∀ part ∈ type.parts, part.held.length = 1
  /-- Every class in the type goes by a name. -/
  named : ∀ part ∈ type.parts, ∀ name ∈ part.className? classes, Name.IsName name

/-- No class in the type goes by a text with a line feed in it. -/
def Unbroken (classes : List Class) (type : FieldType) : Prop :=
  ∀ part ∈ type.parts, ∀ name ∈ part.className? classes, '\n' ∉ name.toList

/-- What is asked of all parts of a type that is made of other types is asked of the type
and of these. -/
theorem definite_iff_of_parts
    {type : FieldType}
    {items : List FieldType}
    (partsEq : type.parts = type :: partsOf items)
    (noClass : type.className? classes = .none) :
    type.Definite classes ↔
      type.held.length = 1 ∧ ∀ item ∈ items, item.Definite classes := by
  have among {good : FieldType → Prop} :
      (∀ part ∈ type.parts, good part) ↔
        good type ∧ ∀ item ∈ items, ∀ part ∈ item.parts, good part := by
    rw [partsEq, List.forall_mem_cons]
    simp only [mem_partsOf_iff]
    exact and_congr_right fun _ =>
      ⟨fun all item isItem part isPart => all part ⟨item, isItem, isPart⟩,
        fun all part ⟨item, isItem, isPart⟩ => all item isItem part isPart⟩
  constructor
  · rintro ⟨unions, named⟩
    rw [among] at unions named
    exact ⟨unions.1, fun item isItem => ⟨unions.2 item isItem, named.2 item isItem⟩⟩
  · rintro ⟨single, areDefinite⟩
    refine ⟨among.mpr ⟨single, fun item isItem => (areDefinite item isItem).unions⟩,
      among.mpr ⟨by simp [noClass], fun item isItem => (areDefinite item isItem).named⟩⟩

theorem Unbroken.of_mem
    {type item : FieldType}
    {items : List FieldType}
    (unbroken : type.Unbroken classes)
    (partsEq : type.parts = type :: partsOf items)
    (isItem : item ∈ items) :
    item.Unbroken classes := by
  intro part isPart
  refine unbroken part ?_
  rw [partsEq]
  exact List.mem_cons_of_mem _ (mem_partsOf_iff.mpr ⟨item, isItem, isPart⟩)

theorem definite_noneType : noneType.Definite classes :=
  ⟨by simp [parts, held], by simp [parts, className?]⟩

theorem yields_checkName
    {kind given : String}
    (noLineFeed : '\n' ∉ given.toList) :
    Yields (checkName kind given) (Name.IsName given) (· = given) where
  exists_iff := by
    rw [checkName, Name.accepts_eq_isName noLineFeed]
    by_cases isName : Name.IsName given <;> simp [isName]
  good name found := (checkName_eq_ok_iff.mp found).1.symm

/-- The type of a position that is no union is marked, and a union that holds it is marked
unless it admits nothing. -/
theorem Maps.exists_nonNull
    {core : FieldType}
    {type : TypeRef}
    (maps : Maps classes core type)
    (flat : core.isUnion = false) :
    ∃ inner, type = .nonNull inner ∧
      ∀ outer : FieldType, outer.held = [core] → Maps classes outer (outer.marked inner) := by
  have heldEq : core.held = [core] := by
    cases core with
    | union | alternatives => cases flat
    | _ => rfl
  have required : core.isOptional = false := by
    cases core with
    | union | alternatives => cases flat
    | _ => rfl
  cases maps with
  | named holds isName =>
    obtain rfl := List.singleton_inj.mp (heldEq.symm.trans holds)
    exact ⟨_, by simp [marked, required], fun outer holdsCore => .named holdsCore isName⟩
  | list holds isItem mapsItem =>
    obtain rfl := List.singleton_inj.mp (heldEq.symm.trans holds)
    exact ⟨_, by simp [marked, required], fun outer holdsCore => .list holdsCore isItem mapsItem⟩

/-- A declared class has a schema type exactly if it goes by a name. -/
theorem yields_declared
    {place : Nat}
    {cls : Class}
    (name : String)
    (found : classes[place]? = some cls)
    (hasPlace : cls.kind ≠ .plain)
    (unbroken : (declared place name).Unbroken classes) :
    Yields ((declared place name).toTypeRef classes) ((declared place name).Definite classes)
      (Maps classes (.declared place name)) := by
  have isClass : (declared place name).className? classes = some cls.typeName := by
    simp [className?, found]
  have noLineFeed : '\n' ∉ cls.typeName.toList :=
    unbroken _ List.mem_cons_self cls.typeName isClass
  have mapped : (declared place name).toTypeRef classes =
      (checkName "type name" cls.typeName).map fun typeName => .nonNull (.named typeName) := by
    simp [toTypeRef, classType, found, hasPlace]
  have maps : Maps classes (declared place name) (.nonNull (.named cls.typeName)) :=
    .named rfl isClass
  rw [mapped]
  refine ((yields_checkName noLineFeed).map fun _ same => same ▸ maps).congr ?_
  constructor
  · intro isName
    exact ⟨by simp [parts, held], by simpa [parts, isClass] using isName⟩
  · intro definite
    exact definite.named _ List.mem_cons_self _ isClass

/-- A collection has the schema type of a list if what it holds has one. -/
theorem yields_collection
    {type item : FieldType}
    (mapped : type.toTypeRef classes =
      (item.toTypeRef classes).map fun type => .nonNull (.list type))
    (partsEq : type.parts = type :: partsOf [item])
    (isItem : type.item? = some item)
    (yields : Yields (item.toTypeRef classes) (item.Definite classes) (Maps classes item)) :
    Yields (type.toTypeRef classes) (type.Definite classes) (Maps classes type) := by
  have holds : type.held = [type] ∧ type.isOptional = false ∧
      type.className? classes = .none := by
    cases type with
    | collection | listOf | tupleOf => exact ⟨rfl, rfl, rfl⟩
    | _ => cases isItem
  obtain ⟨heldEq, required, noClass⟩ := holds
  rw [mapped]
  refine (yields.map fun itemType maps => ?_).congr ?_
  · have mapsList := Maps.list heldEq isItem maps
    rwa [marked, required] at mapsList
  · rw [definite_iff_of_parts partsEq noClass]
    simp [heldEq]

/-- A union has a schema type exactly if it admits one thing besides nothing and this has
one. -/
theorem yields_unionType
    {type : FieldType}
    {members : List FieldType}
    (mapped : type.toTypeRef classes =
      unionType type.display members.length (memberTypes classes members))
    (partsEq : type.parts = type :: partsOf members)
    (noClass : type.className? classes = .none)
    (heldEq : type.held = members.filter fun member => !member.isNothing)
    (optionalEq : type.isOptional = members.any isNothing)
    (flat : ∀ member ∈ members, member.isUnion = false)
    (yields : ∀ member ∈ members, member.isNothing = false →
      Yields (member.toTypeRef classes) (member.Definite classes) (Maps classes member)) :
    Yields (type.toTypeRef classes) (type.Definite classes) (Maps classes type) := by
  rw [mapped, memberTypes_eq, ← heldEq]
  have definiteIff := definite_iff_of_parts partsEq noClass
  match single : type.held with
  | [] | _ :: _ :: _ =>
    refine ⟨?_, nofun⟩
    rw [definiteIff, single]
    simp [unionType]
  | [core] =>
    have isCore : core ∈ members ∧ core.isNothing = false := by
      have among : core ∈ type.held := by simp [single]
      simpa [heldEq] using among
    have definiteCore : type.Definite classes ↔ core.Definite classes := by
      rw [definiteIff, single]
      refine ⟨fun all => all.2 core isCore.1, fun definite => ⟨rfl, fun member present => ?_⟩⟩
      cases isNothing : member.isNothing with
      | false =>
        have among : member ∈ type.held := by simp [heldEq, present, isNothing]
        rw [single, List.mem_singleton] at among
        exact among ▸ definite
      | true =>
        cases member with
        | noneType => exact definite_noneType
        | _ => cases isNothing
    have yieldsCore := (yields core isCore.1 isCore.2).congr definiteCore.symm
    have isFlat := flat core isCore.1
    simp only [List.map_cons, List.map_nil, unionType]
    split
    case isTrue alone =>
      have required : type.isOptional = false := by
        obtain ⟨only, rfl⟩ := List.length_eq_one_iff.mp alone
        obtain rfl := List.mem_singleton.mp isCore.1
        simp [optionalEq, isCore.2]
      refine yieldsCore.mono fun found maps => ?_
      obtain ⟨inner, rfl, rehold⟩ := maps.exists_nonNull isFlat
      simpa [marked, required] using rehold type single
    case isFalse several =>
      have optional : type.isOptional = true := by
        rw [optionalEq]
        by_contra none
        have all : type.held = members := by
          rw [heldEq, List.filter_eq_self]
          simpa using none
        exact several (by simp [← all, single])
      refine yieldsCore.map fun found maps => ?_
      obtain ⟨inner, rfl, rehold⟩ := maps.exists_nonNull isFlat
      simpa [marked, optional, nullable] using rehold type single

/-- An annotation has a schema type exactly if it is definite, and then the one that it
maps to. -/
theorem yields_toTypeRef
    {type : FieldType}
    (annotated : Annotation classes type)
    (unbroken : type.Unbroken classes) :
    Yields (type.toTypeRef classes) (type.Definite classes) (Maps classes type) := by
  induction annotated with
  | scalar kind =>
    have maps : Maps classes (.scalar kind) (.nonNull (.named kind.typeName)) := .named rfl rfl
    refine (Yields.ok maps).congr (iff_of_true trivial ?_)
    exact ⟨by simp [parts, held], by simp [parts, className?]⟩
  | declared name found hasPlace => exact yields_declared name found hasPlace unbroken
  | @collection kind item notDict _ inductionHypothesis =>
    have partsEq : (collection kind [item]).parts = _ :: partsOf [item] := rfl
    refine yields_collection ?_ partsEq ?_
      (inductionHypothesis (unbroken.of_mem partsEq List.mem_cons_self))
    · cases kind with
      | dict => exact absurd rfl notDict
      | _ => rfl
    · cases kind with
      | dict => exact absurd rfl notDict
      | _ => rfl
  | @listOf item _ inductionHypothesis =>
    have partsEq : (listOf item).parts = listOf item :: partsOf [item] := by simp [parts, partsOf]
    exact yields_collection rfl partsEq rfl
      (inductionHypothesis (unbroken.of_mem partsEq List.mem_cons_self))
  | @tupleOf item _ inductionHypothesis =>
    have partsEq : (tupleOf item).parts = tupleOf item :: partsOf [item] := by
      simp [parts, partsOf]
    exact yields_collection rfl partsEq rfl
      (inductionHypothesis (unbroken.of_mem partsEq List.mem_cons_self))
  | union flat _ inductionHypothesis | alternatives flat _ inductionHypothesis =>
    exact yields_unionType rfl rfl rfl rfl rfl flat fun member present notNothing =>
      inductionHypothesis member present notNothing (unbroken.of_mem rfl present)

/-! ## Schema types as texts -/

theorem mem_parts_self (type : FieldType) : type ∈ type.parts := by
  cases type <;> simp [parts]

/-- What a position holds is a part of its type. -/
theorem parts_subset_of_mem_held
    {type core : FieldType}
    (present : core ∈ type.held) :
    core.parts ⊆ type.parts := by
  have ofMember {members : List FieldType}
      (among : core ∈ members.filter fun member => !member.isNothing) :
      core.parts ⊆ partsOf members :=
    fun part isPart => mem_partsOf_iff.mpr ⟨core, List.mem_of_mem_filter among, isPart⟩
  cases type with
  | union | alternatives => exact List.subset_cons_of_subset _ (ofMember present)
  | _ =>
    obtain rfl := List.mem_singleton.mp present
    exact List.Subset.refl _

/-- What a collection holds is a part of its type. -/
theorem parts_subset_of_item?
    {type item : FieldType}
    (isItem : type.item? = some item) :
    item.parts ⊆ type.parts := by
  unfold item? at isItem
  split at isItem
  case h_1 | h_5 => cases isItem
  case h_2 | h_3 | h_4 =>
    obtain rfl := Option.some.inj isItem
    simp [parts, partsOf]

/-- The names in the schema type are names if the classes in the type go by names. -/
theorem Maps.typeFits
    {type : FieldType}
    {mapped : TypeRef}
    (maps : Maps classes type mapped)
    (named : ∀ part ∈ type.parts, ∀ name ∈ part.className? classes, Name.IsName name) :
    Written.TypeFits Name.IsName mapped := by
  have fits_marked {type : FieldType} {inner : TypeRef}
      (fits : Written.TypeFits Name.IsName inner) :
      Written.TypeFits Name.IsName (type.marked inner) := by
    rw [marked]
    split <;> exact fits
  induction maps with
  | @named type core name holds isName =>
    refine fits_marked ?_
    have isHeld : core ∈ type.held := by simp [holds]
    have isPart : core ∈ type.parts := parts_subset_of_mem_held isHeld (mem_parts_self core)
    cases core with
    | scalar kind =>
      obtain rfl := Option.some.inj isName
      change Name.IsName kind.typeName
      cases kind <;> decide
    | _ => exact named _ isPart name isName
  | @list type core item _ holds isItem _ inductionHypothesis =>
    have isHeld : core ∈ type.held := by simp [holds]
    have arePart : item.parts ⊆ type.parts :=
      List.Subset.trans (parts_subset_of_item? isItem) (parts_subset_of_mem_held isHeld)
    exact fits_marked (inductionHypothesis fun part isPart => named part (arePart isPart))

/-- An annotation has a schema type exactly if every union in it admits one thing besides
nothing and every class in it goes by a name.  The schema type has a list for each
collection and a mark at each position that does not admit nothing, no mark is doubled, and
the type is read back from its text. -/
theorem toTypeRef_exact
    {type : FieldType}
    (annotated : Annotation classes type)
    (unbroken : ∀ part ∈ type.parts, ∀ name ∈ part.className? classes, '\n' ∉ name.toList) :
    ((∃ mapped, type.toTypeRef classes = .ok mapped) ↔
        (∀ part ∈ type.parts, part.held.length = 1) ∧
          ∀ part ∈ type.parts, ∀ name ∈ part.className? classes, Name.IsName name) ∧
      ∀ mapped, type.toTypeRef classes = .ok mapped →
        Maps classes type mapped ∧ mapped.Undoubled ∧
          TypeRef.parse mapped.print = .ok mapped := by
  have yields := yields_toTypeRef annotated unbroken
  refine ⟨?_, fun mapped found => ?_⟩
  · rw [yields.exists_iff]
    exact ⟨fun definite => ⟨definite.unions, definite.named⟩, fun ⟨unions, named⟩ =>
      ⟨unions, named⟩⟩
  · have definite := yields.exists_iff.mp ⟨mapped, found⟩
    have maps := yields.good mapped found
    have undoubled := (passed_toTypeRef found).2
    have spells := Layout.spells_typeRef Layout.namesRead_of_isName (maps.typeFits definite.named)
    rw [Source.Lexed.naming_of] at spells
    exact ⟨maps, undoubled, TypeRef.parse_of_undoubled undoubled spells.lexed_eq⟩

end Annotations

/-- A class is written in the schema under the name of its mark, in a set that may be missing
from a tuple of any number of them. -/
theorem toTypeRef_exact_nested :
    let color : Class := ⟨"Color", .enum, [], some ⟨some "Colour", .none, false⟩, []⟩
    let type : FieldType := .tupleOf (.either (.collection .set [.declared 0 "Color"]) .none)
    let mapped : TypeRef := .nonNull (.list (.list (.nonNull (.named "Colour"))))
    Annotation [color] type ∧ type.Unbroken [color] ∧ type.toTypeRef [color] = .ok mapped ∧
      (∀ part ∈ type.parts, part.held.length = 1) ∧ Maps [color] type mapped ∧
      TypeRef.parse "[[Colour!]]!" = .ok mapped := by
  intro color type mapped
  have isClass : Annotation [color] (.declared 0 "Color") := .declared "Color" rfl (by decide)
  have isItem : Annotation [color] (.either (.collection .set [.declared 0 "Color"]) .none) :=
    (isAlternative_either (.inr (.collection (by decide) isClass)) (.inl rfl)).resolve_left
      (by decide)
  have annotated : Annotation [color] type := .tupleOf isItem
  have unbroken : type.Unbroken [color] := by
    have partsEq : type.parts = [type, .either (.collection .set [.declared 0 "Color"]) .none,
        .collection .set [.declared 0 "Color"], .declared 0 "Color", .noneType] := rfl
    intro part isPart name isName
    rw [partsEq] at isPart
    simp only [List.mem_cons, List.not_mem_nil, or_false] at isPart
    obtain rfl | rfl | rfl | rfl | rfl := isPart
    · cases isName
    · cases isName
    · cases isName
    · obtain rfl := Option.some.inj isName
      decide
    · cases isName
  have isName : checkName "type name" "Colour" = .ok "Colour" :=
    checkName_eq_ok_iff.mpr ⟨rfl, .inl (by decide)⟩
  have found : type.toTypeRef [color] = .ok mapped := by
    have typeEq : type = .tupleOf (.alternatives
        [.collection .set [.declared 0 "Color"], .noneType]) := rfl
    have isCalled : color.typeName = "Colour" := rfl
    have isKind : color.kind = .enum := rfl
    simp [typeEq, toTypeRef, memberTypes, unionType, classType, isKind, isCalled, isName,
      Except.map, nullable, mapped]
  obtain ⟨succeeds, known⟩ := toTypeRef_exact annotated unbroken
  obtain ⟨maps, -, parsed⟩ := known mapped found
  exact ⟨annotated, unbroken, found, (succeeds.mp ⟨mapped, found⟩).1, maps, parsed⟩

end FieldType
end Schema
end GraphQL
