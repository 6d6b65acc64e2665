import GraphQL.Proofs.Schema.Description

/-!
# Marks stay with their class

Classes are declared one after another, each perhaps as an extension of one that is there,
and at any time any of them may be marked.  What a class goes by in a schema comes from the
last mark of each sort that was made on that very class; what was made on its base, on what
extends it, or on any other class, has no part in it.  All types of fields that lead to the
class name it in the same way.  The fields are what they are without any marks.
-/

namespace GraphQL
namespace Schema

open Outcome
open Source (TypeRef)

/-! ## Steps -/

/-- What is done to classes: one more is declared, or one is marked by its place. -/
inductive Step
  | declare (spec : ClassSpec)
  | mark (place : Nat) (mark : Mark)

namespace Step

/-- The classes after a step, if it can be taken. -/
def run (classes : List Class) : Step → Option (List Class)
  | declare spec => (Schema.declare classes spec).toOption
  | mark place given => do
    let cls ← classes[place]?
    let marked ← (cls.addMark given).toOption
    return classes.set place marked

/-- The classes after steps that are taken one after another. -/
def runAll (steps : List Step) : Option (List Class) :=
  steps.foldlM run []

/-- The class that a step declares. -/
def spec? : Step → Option ClassSpec
  | declare spec => some spec
  | mark _ _ => none

/-- The mark that a step makes on the class at a place that is there already. -/
def markOn? (place : Nat) : Step → Option Mark
  | declare _ => none
  | mark other given => if other = place then some given else none

/-- The step without marks. -/
def unmarked? : Step → Option Step
  | declare spec => some (declare { spec with marks := [] })
  | mark _ _ => none

/-- The marks on the class at a place, in the order in which they are made: first those
that it is declared with. -/
def marksOn (steps : List Step) (place : Nat) : List Mark :=
  ((steps.filterMap spec?)[place]?.elim [] ClassSpec.marks) ++ steps.filterMap (markOn? place)

end Step

namespace Mark

/-- What a mark says about the type, if it is a type mark. -/
def type? : Mark → Option TypeMark
  | type mark => some mark
  | order _ => none

/-- The order that a mark gives, if it is an order mark. -/
def order? : Mark → Option (List String)
  | type _ => none
  | order names => some names

/-- What the last type mark says. -/
def lastType? (marks : List Mark) : Option TypeMark :=
  (marks.filterMap type?).getLast?

/-- What the last order mark gives; without one, no order. -/
def lastOrder (marks : List Mark) : List String :=
  (marks.filterMap order?).getLast?.getD []

end Mark

/-- The name in the schema of the class that is declared at a place: the one that its own
last type mark gives, and otherwise the name of the class. -/
def Step.schemaName? (steps : List Step) (place : Nat) : Option String :=
  (steps.filterMap spec?)[place]?.map fun spec =>
    ((Mark.lastType? (marksOn steps place)).bind TypeMark.name?).getD spec.name

/-! ## One mark -/

namespace Class

/-- The class without its marks. -/
def bare (cls : Class) : Class :=
  { cls with type? := none, order := [] }

/-- The class goes by its own marks. -/
structure Carries (cls : Class) (marks : List Mark) : Prop where
  /-- What the last type mark says. -/
  type? : cls.type? = Mark.lastType? marks
  /-- What the last order mark gives. -/
  order : cls.order = Mark.lastOrder marks

theorem addMark_eq_ok
    {cls marked : Class}
    {mark : Mark}
    (made : cls.addMark mark = .ok marked) :
    marked =
      { cls with type? := mark.type?.or cls.type?, order := mark.order?.getD cls.order } := by
  cases mark with
  | order names => exact (Except.ok.inj made).symm
  | type mark =>
    unfold addMark at made
    dsimp only at made
    split at made
    case h_1 =>
      obtain ⟨-, -, rfl⟩ := map_eq_ok_iff.mp made
      rfl
    case h_2 => exact (Except.ok.inj made).symm

theorem bare_addMark
    {cls marked : Class}
    {mark : Mark}
    (made : cls.addMark mark = .ok marked) :
    marked.bare = cls.bare := by
  rw [addMark_eq_ok made]
  rfl

theorem Carries.addMark
    {cls marked : Class}
    {marks : List Mark}
    {mark : Mark}
    (carries : cls.Carries marks)
    (made : cls.addMark mark = .ok marked) :
    marked.Carries (marks ++ [mark]) := by
  rw [addMark_eq_ok made]
  cases mark with
  | type mark => exact ⟨by simp [Mark.lastType?, Mark.type?], by
      simp [carries.order, Mark.lastOrder, Mark.order?]⟩
  | order names => exact ⟨by simp [carries.type?, Mark.lastType?, Mark.type?], by
      simp [Mark.lastOrder, Mark.order?]⟩

theorem addMarks_eq_ok
    {cls marked : Class}
    (before : List Mark)
    {marks : List Mark}
    (carries : cls.Carries before)
    (made : cls.addMarks marks = .ok marked) :
    marked.Carries (before ++ marks) ∧ marked.bare = cls.bare := by
  induction marks generalizing cls before with
  | nil =>
    obtain rfl := Except.ok.inj made
    exact ⟨by rwa [List.append_nil], rfl⟩
  | cons mark marks inductionHypothesis =>
    obtain ⟨first, madeFirst, madeRest⟩ := bind_eq_ok_iff.mp made
    obtain ⟨carriesAll, sameBare⟩ := inductionHypothesis _ (carries.addMark madeFirst) madeRest
    rw [List.append_assoc] at carriesAll
    exact ⟨carriesAll, sameBare.trans (bare_addMark madeFirst)⟩

end Class

/-! ## One declaration -/

section Bare

variable {classes : List Class} {spec : ClassSpec}

theorem find?_map_bare (classes : List Class) (name : String) :
    find? (classes.map Class.bare) name = (find? classes name).map Class.bare := by
  rw [find?, find?, ← List.map_reverse, List.find?_map]
  rfl

/-- Neither the marks of a declaration nor those of a base have a part in the kind and the
fields of a class. -/
theorem Class.resolved_bare (spec : ClassSpec) (base? : Option Class) :
    ownFields { spec with marks := [] } (base?.map bare) = ownFields spec base? ∧
      resolvedFields { spec with marks := [] } (base?.map bare) = resolvedFields spec base? ∧
      resolvedKind { spec with marks := [] } (base?.map bare) = resolvedKind spec base? := by
  cases base? <;> exact ⟨rfl, rfl, rfl⟩

/-- A declaration adds one class, which has the declared name and carries the marks that it
is declared with.  Without marks, there or before, the same class comes out but for its
marks. -/
theorem exists_class_of_declare
    {more : List Class}
    (made : declare classes spec = .ok more) :
    ∃ cls, more = classes ++ [cls] ∧ cls.name = spec.name ∧ cls.Carries spec.marks ∧
      declare (classes.map Class.bare) { spec with marks := [] } = .ok (more.map Class.bare) := by
  obtain ⟨own, madeOwn, made⟩ := bind_eq_ok_iff.mp made
  split at made
  case isTrue => cases made
  case isFalse noNull =>
    obtain ⟨cls, marked, same⟩ := bind_eq_ok_iff.mp made
    obtain rfl := Except.ok.inj same
    obtain ⟨carries, sameBare⟩ := Class.addMarks_eq_ok [] ⟨rfl, rfl⟩ marked
    refine ⟨cls, rfl, congrArg Class.name sameBare, carries, ?_⟩
    have base : spec.base?.bind (find? (classes.map Class.bare)) =
        (spec.base?.bind (find? classes)).map Class.bare := by
      cases spec.base? with
      | none => rfl
      | some name => exact find?_map_bare classes name
    obtain ⟨sameOwn, sameFields, sameKind⟩ :=
      Class.resolved_bare spec (spec.base?.bind (find? classes))
    simp only [declare, base, sameOwn, madeOwn, sameFields, sameKind, ok_bind, noNull,
      Bool.false_eq_true, if_false, Class.addMarks, List.map_append, List.map_cons, List.map_nil,
      sameBare]
    rfl

end Bare

/-! ## All steps -/

namespace Step

variable {steps : List Step} {classes more : List Class}

/-- What classes have to do with the steps that made them: they have the declared names, each
carries the marks that were made on it, and without marks the steps make the same classes
but for their marks. -/
structure Tracks (steps : List Step) (classes : List Class) : Prop where
  /-- The classes have the declared names. -/
  names : classes.map Class.name = (steps.filterMap spec?).map ClassSpec.name
  /-- Each class carries the marks that were made on it. -/
  carries : ∀ (place : ℕ) (cls : Class), classes[place]? = some cls →
    cls.Carries (marksOn steps place)
  /-- No marks were made where there is no class. -/
  beyond : ∀ place, classes.length ≤ place → steps.filterMap (markOn? place) = []
  /-- Without marks the same classes are made. -/
  bare : runAll (steps.filterMap unmarked?) = some (classes.map Class.bare)

theorem Tracks.length
    (tracks : Tracks steps classes) :
    (steps.filterMap spec?).length = classes.length := by
  simpa using congrArg List.length tracks.names.symm

theorem runAll_append_singleton (steps : List Step) (step : Step) :
    runAll (steps ++ [step]) = (runAll steps).bind fun classes => step.run classes := by
  simp only [runAll, List.foldlM_append, List.foldlM_cons, List.foldlM_nil, bind_pure]
  rfl

/-- A declaration adds no mark on a class that is there. -/
theorem marksOn_declare
    {place : ℕ}
    (steps : List Step)
    (spec : ClassSpec)
    (before : place < (steps.filterMap spec?).length) :
    marksOn (steps ++ [.declare spec]) place = marksOn steps place := by
  simp [marksOn, List.filterMap_cons, spec?, markOn?, List.getElem?_append_left before]

/-- A mark is the last one on the class that it is made on, and on no other class. -/
theorem marksOn_mark (steps : List Step) (place other : ℕ) (given : Mark) :
    marksOn (steps ++ [.mark place given]) other =
      marksOn steps other ++ if place = other then [given] else [] := by
  by_cases same : place = other <;> simp [marksOn, List.filterMap_cons, spec?, markOn?, same]

theorem Tracks.declare
    {spec : ClassSpec}
    (tracks : Tracks steps classes)
    (made : Schema.declare classes spec = .ok more) :
    Tracks (steps ++ [.declare spec]) more := by
  obtain ⟨added, rfl, name, carries, bare⟩ := exists_class_of_declare made
  have length := tracks.length
  refine ⟨?_, fun place cls found => ?_, fun place outside => ?_, ?_⟩
  · simp [spec?, tracks.names, name]
  · rcases Nat.lt_trichotomy place classes.length with before | rfl | after
    · rw [List.getElem?_append_left before] at found
      rw [marksOn_declare steps spec (length ▸ before)]
      exact tracks.carries place cls found
    · obtain rfl : added = cls := by simpa using found
      have only : marksOn (steps ++ [.declare spec]) classes.length = spec.marks := by
        simp [marksOn, List.filterMap_cons, spec?, markOn?, ← length, tracks.beyond]
      rwa [only]
    · rw [List.getElem?_eq_none (by simp; omega)] at found
      cases found
  · rw [List.length_append, List.length_singleton] at outside
    simpa [List.filterMap_cons, markOn?] using tracks.beyond place (by omega)
  · simp [unmarked?, runAll_append_singleton, tracks.bare, run, bare, Except.toOption]

theorem Tracks.mark
    {place : ℕ}
    {given : Mark}
    {cls marked : Class}
    (tracks : Tracks steps classes)
    (found : classes[place]? = some cls)
    (made : cls.addMark given = .ok marked) :
    Tracks (steps ++ [.mark place given]) (classes.set place marked) := by
  have sameBare := Class.bare_addMark made
  have sameName : marked.name = cls.name := (congrArg Class.name sameBare :)
  have inside := (List.getElem?_eq_some_iff.mp found).1
  -- What a mark leaves as it is, the classes keep at the marked place as well.
  have kept {α : Type} (read : Class → α) (same : read marked = read cls) :
      (classes.set place marked).map read = classes.map read := by
    refine List.ext_getElem? fun n => ?_
    by_cases here : place = n
    · subst here
      rw [List.getElem?_map, List.getElem?_map, List.getElem?_set_self inside, found,
        Option.map_some, Option.map_some, same]
    · simp [here]
  refine ⟨?_, fun other after isAfter => ?_, fun other outside => ?_, ?_⟩
  · simpa [List.filterMap_cons, spec?, kept Class.name sameName] using tracks.names
  · rw [marksOn_mark]
    by_cases same : place = other
    · subst same
      rw [List.getElem?_set_self inside] at isAfter
      obtain rfl := Option.some.inj isAfter
      simpa using (tracks.carries place cls found).addMark made
    · rw [List.getElem?_set_ne same] at isAfter
      simpa [same] using tracks.carries other after isAfter
  · rw [List.length_set] at outside
    have apart : place ≠ other := by omega
    simpa [List.filterMap_cons, markOn?, apart] using tracks.beyond other outside
  · simpa [List.filterMap_cons, unmarked?, kept Class.bare sameBare] using tracks.bare

/-- Steps that can all be taken are tracked by the classes that they make. -/
theorem tracks_of_runAll
    (ran : runAll steps = some classes) :
    Tracks steps classes := by
  induction steps using List.reverseRecOn generalizing classes with
  | nil =>
    obtain rfl := Option.some.inj ran
    exact ⟨rfl, nofun, fun _ _ => rfl, rfl⟩
  | append_singleton steps step inductionHypothesis =>
    rw [runAll_append_singleton] at ran
    obtain ⟨before, ranBefore, ranLast⟩ := Option.bind_eq_some_iff.mp ran
    have tracks := inductionHypothesis ranBefore
    cases step with
    | declare spec => exact tracks.declare (toOption_eq_some_iff.mp ranLast)
    | mark place given =>
      obtain ⟨cls, found, ranLast⟩ := Option.bind_eq_some_iff.mp ranLast
      obtain ⟨marked, made, same⟩ := Option.bind_eq_some_iff.mp ranLast
      obtain rfl := Option.some.inj same
      exact tracks.mark found (toOption_eq_some_iff.mp made)

/-- Where a class is declared, its name in the schema is told from the steps alone. -/
theorem Tracks.schemaName?
    (tracks : Tracks steps classes) :
    Step.schemaName? steps = fun place => classes[place]?.map Class.typeName := by
  funext place
  have name : (steps.filterMap spec?)[place]?.map ClassSpec.name =
      classes[place]?.map Class.name := by
    rw [← List.getElem?_map, ← List.getElem?_map, tracks.names]
  rw [Step.schemaName?]
  cases found : classes[place]? with
  | none =>
    rw [found, Option.map_none, Option.map_eq_none_iff] at name
    rw [name]
    rfl
  | some cls =>
    rw [found, Option.map_some, Option.map_eq_some_iff] at name
    obtain ⟨spec, isSpec, sameName⟩ := name
    rw [isSpec, Option.map_some, Option.map_some, Class.typeName,
      (tracks.carries place cls found).type?, sameName]

end Step

/-! ## References -/

/-- What the type of a field leads to: a scalar, or a declared class by its place. -/
inductive Leaf
  | scalar (kind : ScalarClass)
  | declared (place : ℕ)

/-- The name of what the type of a field leads to, where classes have names by their
places. -/
def Leaf.name? (names : ℕ → Option String) : Leaf → Option String
  | scalar kind => some kind.typeName
  | declared place => names place

namespace FieldType

mutual

/-- What the type of a field leads to, through collections and unions with nothing. -/
def leaf? : FieldType → Option Leaf
  | scalar kind => some (.scalar kind)
  | declared place _ => some (.declared place)
  | union members | alternatives members => leafAmong? members
  | collection _ (item :: _) | listOf item | tupleOf item => leaf? item
  | _ => Option.none

/-- What the first type other than nothing leads to. -/
def leafAmong? : List FieldType → Option Leaf
  | [] => Option.none
  | noneType :: members => leafAmong? members
  | member :: _ => leaf? member

end

mutual

/-- The schema type that a name has around it: a list for each collection, and a mark
wherever nothing is not admitted. -/
def around (name : String) : FieldType → TypeRef
  | union members | alternatives members =>
    if members.length = 1 then aroundAmong name members else nullable (aroundAmong name members)
  | collection _ (item :: _) | listOf item | tupleOf item => .nonNull (.list (around name item))
  | _ => .nonNull (.named name)

/-- The schema type that a name has around it in the first type other than nothing. -/
def aroundAmong (name : String) : List FieldType → TypeRef
  | [] => .named name
  | noneType :: members => aroundAmong name members
  | member :: _ => around name member

end

/-- The schema type names what the type leads to, and has nothing else from the classes. -/
def LeadsTo (names : ℕ → Option String) (type : FieldType) (mapped : TypeRef) : Prop :=
  ∃ leaf ∈ type.leaf?, ∃ name ∈ leaf.name? names, mapped = type.around name

theorem leadsTo_classType
    {classes : List Class}
    {place : ℕ}
    {name : String}
    {mapped : TypeRef}
    (made : classType classes place name = .ok mapped) :
    (declared place name).LeadsTo (fun place => classes[place]?.map Class.typeName) mapped := by
  rw [classType] at made
  split at made
  case h_2 => cases made
  case h_1 cls found =>
    split at made
    case isTrue => cases made
    case isFalse =>
      obtain ⟨typeName, checked, rfl⟩ := map_eq_ok_iff.mp made
      obtain ⟨rfl, -⟩ := checkName_eq_ok_iff.mp checked
      exact ⟨.declared place, rfl, cls.typeName, by simp [Leaf.name?, found], rfl⟩

section

variable {classes : List Class} {names : ℕ → Option String} {mapped : TypeRef}

theorem leadsTo_collection
    {type : FieldType}
    (item : FieldType)
    (leaf : type.leaf? = item.leaf?)
    (around : ∀ name, type.around name = .nonNull (.list (item.around name)))
    (leads : ∀ inner, item.toTypeRef classes = .ok inner → item.LeadsTo names inner)
    (made : (item.toTypeRef classes).map (fun type => .nonNull (.list type)) = .ok mapped) :
    type.LeadsTo names mapped := by
  obtain ⟨inner, isInner, rfl⟩ := map_eq_ok_iff.mp made
  obtain ⟨found, isLeaf, name, isName, rfl⟩ := leads inner isInner
  exact ⟨found, leaf ▸ isLeaf, name, isName, (around name).symm⟩

theorem leadsTo_union
    {type : FieldType}
    {shown : String}
    {members : List FieldType}
    (leaf : type.leaf? = leafAmong? members)
    (around : ∀ name, type.around name =
      if members.length = 1 then aroundAmong name members else nullable (aroundAmong name members))
    (leads : ∀ results inner, memberTypes classes members = .ok inner :: results →
      ∃ leaf ∈ leafAmong? members, ∃ name ∈ leaf.name? names, inner = aroundAmong name members)
    (made : unionType shown members.length (memberTypes classes members) = .ok mapped) :
    type.LeadsTo names mapped := by
  unfold unionType at made
  split at made
  case h_2 => cases made
  case h_1 result single =>
    split at made
    case isTrue alone =>
      obtain ⟨found, isLeaf, name, isName, rfl⟩ := leads [] mapped (made ▸ single)
      exact ⟨found, leaf ▸ isLeaf, name, isName, by rw [around, if_pos alone]⟩
    case isFalse several =>
      obtain ⟨inner, rfl, rfl⟩ := map_eq_ok_iff.mp made
      obtain ⟨found, isLeaf, name, isName, rfl⟩ := leads [] inner single
      exact ⟨found, leaf ▸ isLeaf, name, isName, by rw [around, if_neg several]⟩

end

mutual

/-- The schema type of a field names what the type of the field leads to, a class by the name
that it goes by. -/
theorem leadsTo_toTypeRef
    {classes : List Class}
    {given : FieldType}
    {mapped : TypeRef}
    (made : given.toTypeRef classes = .ok mapped) :
    given.LeadsTo (fun place => classes[place]?.map Class.typeName) mapped := by
  match given with
  | .scalar kind =>
    obtain rfl := Except.ok.inj made
    exact ⟨.scalar kind, rfl, kind.typeName, rfl, rfl⟩
  | .declared place name => exact leadsTo_classType made
  | .union members | .alternatives members =>
    exact leadsTo_union rfl (fun _ => rfl)
      (fun results inner same => @leadsTo_memberTypes classes members results inner same) made
  | .collection .dict [] | .collection .dict (_ :: _) => cases made
  | .collection .list (item :: _) | .collection .set (item :: _)
  | .collection .frozenset (item :: _) | .collection .tuple (item :: _)
  | .listOf item | .tupleOf item =>
    exact leadsTo_collection item rfl (fun _ => rfl)
      (fun inner isInner => @leadsTo_toTypeRef classes item inner isInner) made
  | .collection .list [] | .collection .set [] | .collection .frozenset []
  | .collection .tuple [] | .someList | .someTuple | .any | .none | .noneType | .foreign _
  | .literal _ => cases made

theorem leadsTo_memberTypes
    {classes : List Class}
    {members : List FieldType}
    {results : List (Except SchemaFault TypeRef)}
    {inner : TypeRef}
    (made : memberTypes classes members = .ok inner :: results) :
    ∃ leaf ∈ leafAmong? members,
      ∃ name ∈ leaf.name? (fun place => classes[place]?.map Class.typeName),
        inner = aroundAmong name members := by
  match members with
  | [] => cases made
  | member :: members =>
    have ofMember (mapped : TypeRef) (made : member.toTypeRef classes = .ok mapped) :=
      leadsTo_toTypeRef made
    have ofMembers := @leadsTo_memberTypes classes members results inner
    unfold memberTypes at made
    split at made
    case h_1 => cases made
    case h_2 same =>
      obtain ⟨rfl, rfl⟩ := List.cons.inj same
      exact ofMembers made
    case h_3 notNothing same =>
      obtain ⟨rfl, rfl⟩ := List.cons.inj same
      have first := (List.cons.inj made).1
      obtain ⟨leaf, isLeaf, name, isName, isAround⟩ := ofMember inner first
      refine ⟨leaf, ?_, name, isName, ?_⟩
      · rwa [leafAmong?.eq_3 member members notNothing]
      · rwa [aroundAmong.eq_3 name member members notNothing]

end

end FieldType

/-! ## Descriptions -/

/-- What a class is described as comes from its own marks alone.  After any steps that could
all be taken, the name is that of its last type mark, or of the class, the description and
the sort of type are those of that mark, and the documented order is that of its last order
mark.  Types of fields, of this or another class, name it in the same way.  Without any
marks, the same steps make the same classes, with the same fields in the same order, and
those are the fields that are described: marks show in nothing but the names of classes in
their types. -/
theorem Class.describe_marks
    {steps : List Step}
    {classes : List Class}
    {place : ℕ}
    {cls : Class}
    {type : TypeDescription}
    (ran : Step.runAll steps = some classes)
    (found : classes[place]? = some cls)
    (described : cls.describe classes = .ok type) :
    let marks := Step.marksOn steps place
    Step.schemaName? steps place = some type.name ∧
      type.description? = (Mark.lastType? marks).bind TypeMark.description? ∧
      type.isInput = ((Mark.lastType? marks).map TypeMark.isInput).getD false ∧
      type.order = Mark.lastOrder marks ∧
      Step.runAll (steps.filterMap Step.unmarked?) = some (classes.map Class.bare) ∧
      List.Forall₂ (fun field shown => shown.name = field.schemaName ∧
          shown.sourceName = field.name ∧ shown.description = field.description ∧
          field.type.LeadsTo (Step.schemaName? steps) shown.type)
        cls.bare.fields type.fields := by
  intro marks
  have tracks := Step.tracks_of_runAll ran
  have carries := tracks.carries place cls found
  have describes := describe_eq_ok_iff.mp described
  refine ⟨?_, ?_, ?_, ?_, tracks.bare, ?_⟩
  · rw [tracks.schemaName?, describes.name]
    simp [found]
  · rw [describes.description?, carries.type?]
  · rw [describes.isInput, carries.type?]
  · rw [describes.order, carries.order]
  · refine describes.fields.imp fun field shown isDescribed => ?_
    rw [tracks.schemaName?]
    exact ⟨isDescribed.name, isDescribed.sourceName, isDescribed.description,
      FieldType.leadsTo_toTypeRef isDescribed.type⟩

/-- A class that extends a marked one goes by its own name, whatever is marked afterwards, and
its field names the other class as that class is described. -/
theorem Class.describe_marks_inherited :
    let field (name : String) (type : FieldType) : FieldSpec := ⟨name, type, none, .null, .null, []⟩
    let steps : List Step :=
      [.declare ⟨"Node", .model, none, [field "id" (.scalar .uuid)],
          [.type ⟨some "Entity", some "An entity", true⟩, .order ["id"]]⟩,
        .declare ⟨"User", .model, some "Node",
          [field "friend" (.union [.declared 0 "Node", .noneType])], []⟩,
        .mark 1 (.order ["friend"]), .mark 0 (.type ⟨some "Thing", none, false⟩),
        .mark 1 (.order [])]
    ∃ classes cls type, Step.runAll steps = some classes ∧ classes[1]? = some cls ∧
      cls.describe classes = .ok type ∧ type.name = "User" ∧ type.description? = none ∧
      type.isInput = false ∧ type.order = [] ∧
      type.fields.map FieldDescription.type = [.nonNull (.named "ID"), .named "Thing"] := by
  intro field steps
  let node : Class := ⟨"Node", .model, [(field "id" (.scalar .uuid)).modelField],
    some ⟨some "Thing", none, false⟩, ["id"]⟩
  let user : Class := ⟨"User", .model, [(field "id" (.scalar .uuid)).modelField,
    (field "friend" (.union [.declared 0 "Node", .noneType])).modelField], none, []⟩
  have ran : Step.runAll steps = some [node, user] := by
    simp only [Step.runAll, List.foldlM, steps, field]
    rfl
  have found : [node, user][1]? = some user := rfl
  have described : user.describe [node, user] = .ok ⟨"User",
      [⟨.text "id", "id", .nonNull (.named "ID"), .null⟩,
        ⟨.text "friend", "friend", .named "Thing", .null⟩], none, false, []⟩ := by
    simp only [user, node, field]
    rfl
  obtain ⟨name, description?, isInput, order, -, -⟩ := describe_marks ran found described
  exact ⟨_, _, _, ran, found, described, (Option.some.inj name).symm, description?, isInput, order,
    rfl⟩

end Schema
end GraphQL
