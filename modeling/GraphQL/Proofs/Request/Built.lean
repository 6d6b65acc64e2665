import GraphQL.Proofs.Request.Factory

/-!
# Data put together by calls

Callers are free in what they hand over: any data without nodes, nodes from earlier calls,
parts of these, and collections, records and members of enums that hold any of them.  Only
calls make nodes.  So what every call keeps is true throughout all data that can be put
together.
-/

namespace GraphQL

open Outcome Datum

/-! ## Items sorted by factories -/

namespace Build

theorem flatten_eq_flatMap (items : List Datum) : flatten items = items.flatMap leaves := by
  induction items with
  | nil => simp
  | cons item items inductionHypothesis =>
    rw [flatten_cons, inductionHypothesis, List.flatMap_cons]

/-- The leaves of an item are held in it. -/
theorem within_of_mem_leaves
    {leaf item : Datum}
    (present : leaf ∈ leaves item) :
    Within leaf item := by
  suffices climbs : Climbs fun item => leaf ∈ leaves item → Within leaf item from
    climbs.all item present
  intro whole ofHeld present
  cases whole with
  | list items | tuple items =>
    rw [leaves, flatten_eq_flatMap] at present
    obtain ⟨item, among, present⟩ := List.mem_flatMap.mp present
    exact .held among (ofHeld item among present)
  | _ =>
    obtain rfl := List.mem_singleton.mp (by simpa [leaves] using present)
    exact .self

theorem throughout_flatten
    {good : Datum → Prop}
    {items : List Datum}
    (throughout : ∀ item ∈ items, Throughout good item) :
    ∀ leaf ∈ flatten items, Throughout good leaf := by
  intro leaf present
  rw [flatten_eq_flatMap] at present
  obtain ⟨item, among, present⟩ := List.mem_flatMap.mp present
  exact (throughout item among).of_within (within_of_mem_leaves present)

/-- Sorting keeps all leaves. -/
theorem items_of_sort
    {accepted : List ItemKind}
    {items : List Datum}
    {sorted : Sorted}
    (isSorted : sort accepted items = .ok sorted) :
    sorted.items = flatten items := by
  simp only [sort] at isSorted
  split at isSorted
  case h_1 => cases isSorted
  case h_2 => rw [← Except.ok.inj isSorted]

/-- What is sorted as one kind is of that kind. -/
theorem Sorted.isTuple_of (sorted : Sorted) (kind : ItemKind) :
    IsTuple (kind.includes · = true) (sorted.of kind) :=
  ⟨_, rfl, fun _ present => List.of_mem_filter present⟩

/-- A variable has the default value that is passed on, which is null or a value. -/
theorem exists_of_declare
    {name type default made : Datum}
    (isMade : declare name type default = .ok made) :
    ∃ label checked passed, Node.asType type = .ok checked ∧
      (passed = .null ∨ default.toValue = .ok passed) ∧ made = .variable label checked passed := by
  unfold declare at isMade
  split at isMade
  case h_1 =>
    obtain ⟨_, isNull, isMade⟩ := bind_eq_ok_iff.mp isMade
    obtain rfl := Except.ok.inj isNull
    obtain ⟨checked, isType, isMade⟩ := bind_eq_ok_iff.mp isMade
    obtain ⟨label, rfl⟩ := Node.exists_of_declaration isMade
    exact ⟨label, checked, .null, isType, .inl rfl, rfl⟩
  case h_2 =>
    obtain ⟨passed, converted, isMade⟩ := bind_eq_ok_iff.mp isMade
    obtain ⟨checked, isType, isMade⟩ := bind_eq_ok_iff.mp isMade
    obtain ⟨label, rfl⟩ := Node.exists_of_declaration isMade
    exact ⟨label, checked, passed, isType, .inr converted, rfl⟩

/-- A reference to a fragment keeps all its items. -/
theorem exists_of_fragmentSpread
    {fragment made : Datum}
    {items : List Datum}
    (isMade : fragmentSpread fragment items = .ok made) :
    ∃ label, made = .fragmentSpread label (.tuple (flatten items)) := by
  unfold fragmentSpread at isMade
  split at isMade
  case isTrue => exact Node.exists_of_fragmentSpread isMade
  case isFalse =>
    obtain ⟨name, -, isMade⟩ := bind_eq_ok_iff.mp isMade
    exact Node.exists_of_fragmentSpread isMade

/-- The kind of an operation is the given one, or one of the known kinds. -/
theorem known_of_operationKind
    {given kind : Datum}
    (isKind : operationKind given = .ok kind) :
    kind = given ∨ kind ∈ [query, mutation, subscription] := by
  unfold operationKind at isKind
  split at isKind
  case h_1 => exact .inl (Except.ok.inj isKind).symm
  case h_5 => cases isKind
  all_goals
    obtain rfl := Except.ok.inj isKind
    exact .inr (by simp)

/-- The items of an operation are among the given ones. -/
theorem mem_of_operationName
    {name passed : Datum}
    {items rest : List Datum}
    (isNamed : operationName name items = .ok (passed, rest)) :
    ∀ item ∈ rest, item ∈ items := by
  unfold operationName at isNamed
  split at isNamed
  case h_1 first others =>
    split at isNamed
    case isTrue =>
      cases isNamed
      exact fun _ present => present
    case isFalse =>
      split at isNamed
      case isTrue =>
        cases isNamed
        exact fun _ present => List.mem_cons_of_mem _ present
      case isFalse => cases isNamed
  case h_2 =>
    cases isNamed
    exact fun _ present => present

theorem Sorted.throughout_of
    {good : Datum → Prop}
    (asksNodes : AsksNodes good)
    {accepted : List ItemKind}
    {items : List Datum}
    {sorted : Sorted}
    (isSorted : sort accepted items = .ok sorted)
    (throughout : ∀ item ∈ items, Throughout good item)
    (kind : ItemKind) :
    Throughout good (sorted.of kind) := by
  refine (throughout_tuple_iff asksNodes).mpr ?_
  intro item present
  apply throughout_flatten throughout
  rw [← items_of_sort isSorted]
  exact List.mem_of_mem_filter present

end Build

/-! ## Calls of factories -/

/-- A factory makes something of what it is given. -/
inductive Factory : List Datum → Datum → Prop
  | namedType {name made : Datum} :
      Node.namedType name = .ok made →
      Factory [name] made
  | listOf {type made : Datum} :
      Build.listOf type = .ok made →
      Factory [type] made
  | nonNull {type made : Datum} :
      Build.nonNull type = .ok made →
      Factory [type] made
  | declare {name type default made : Datum} :
      Build.declare name type default = .ok made →
      Factory [name, type, default] made
  | declarations {items : List Datum} {made : Datum} :
      Build.declarations items = .ok made →
      Factory items made
  | property {name value made : Datum} :
      Build.property name value = .ok made →
      Factory [name, value] made
  | inputObject {fields : List Datum} {made : Datum} :
      Build.inputObject fields = .ok made →
      Factory fields made
  | listValue {items : List Datum} {made : Datum} :
      Build.listValue items = .ok made →
      Factory items made
  | enumValue {symbol made : Datum} :
      Node.enumValue symbol = .ok made →
      Factory [symbol] made
  | toValue {given made : Datum} :
      given.toValue = .ok made →
      Factory [given] made
  | argument {name value made : Datum} :
      Build.argument name value = .ok made →
      Factory [name, value] made
  | directive {name made : Datum} {items : List Datum} :
      Build.directive name items = .ok made →
      Factory (name :: items) made
  | conditional {condition made : Datum} (name : String) :
      Build.conditional name condition = .ok made →
      Factory [condition] made
  | field {name label made : Datum} {items : List Datum} :
      Build.field name items label = .ok made →
      Factory (name :: label :: items) made
  | fragmentSpread {fragment made : Datum} {items : List Datum} :
      Build.fragmentSpread fragment items = .ok made →
      Factory (fragment :: items) made
  | inlineFragment {condition made : Datum} {items : List Datum} :
      Build.inlineFragment condition items = .ok made →
      Factory (condition :: items) made
  | operation {kind name made : Datum} {items : List Datum} :
      Build.operation kind items name = .ok made →
      Factory (kind :: name :: items) made
  | fragment {name condition made : Datum} {items : List Datum} :
      Build.fragment name condition items = .ok made →
      Factory (name :: condition :: items) made
  | document {definitions : List Datum} {made : Datum} :
      Build.document definitions = .ok made →
      Factory definitions made

namespace Datum

section Calls

variable
  {good : Datum → Prop}
  {made : Datum}

/-- The type that good data stands for is good. -/
theorem Kept.ofType
    (kept : Kept good)
    {given type : Datum}
    (throughout : Throughout good given)
    (isType : Node.asType given = .ok type) :
    type.isTypeRef = true ∧ Throughout good type := by
  obtain ⟨isTypeRef, rfl | ⟨label, rfl⟩⟩ := Node.exists_of_asType isType
  · exact ⟨isTypeRef, throughout⟩
  · refine ⟨rfl, kept.node trivial trivial (List.forall_mem_singleton.mpr ?_)⟩
    exact throughout_ofLabel kept.elsewhere label

theorem Kept.declare
    (kept : Kept good)
    {name type default : Datum}
    (ofType : Throughout good type)
    (ofDefault : Throughout good default)
    (isMade : Build.declare name type default = .ok made) :
    Throughout good made := by
  obtain ⟨label, checked, passed, isType, isPassed, rfl⟩ := Build.exists_of_declare isMade
  obtain ⟨isTypeRef, ofType⟩ := kept.ofType ofType isType
  have ofPassed : (passed = .null ∨ passed.isValue = true) ∧ Throughout good passed := by
    rcases isPassed with rfl | converted
    · exact ⟨.inl rfl, throughout_of_nothing_held kept.elsewhere rfl rfl⟩
    · obtain ⟨isValue, ofPassed⟩ := kept.toValue ofDefault converted
      exact ⟨.inr isValue, ofPassed⟩
  refine kept.node ⟨isTypeRef, ofPassed.1⟩ trivial (List.forall_mem_cons.mpr ⟨?_, ?_⟩)
  · exact throughout_ofLabel kept.elsewhere label
  · exact List.forall_mem_cons.mpr ⟨ofType, List.forall_mem_singleton.mpr ofPassed.2⟩

theorem Kept.listValue
    (kept : Kept good)
    {items : List Datum}
    (ofItems : ∀ item ∈ items, Throughout good item)
    (isMade : Build.listValue items = .ok made) :
    Throughout good made := by
  obtain ⟨values, areValues, rfl⟩ := map_eq_ok_iff.mp isMade
  have ofValues : ∀ value ∈ values, value.isValue = true ∧ Throughout good value := by
    intro value present
    obtain ⟨item, among, converted⟩ := exists_of_mem_forall₂ (mapM_eq_ok_iff.mp areValues) present
    exact kept.toValue (ofItems item among) converted
  have isTuple : IsTuple (·.isValue = true) (.tuple values) :=
    ⟨values, rfl, fun value present => (ofValues value present).1⟩
  refine kept.node isTuple trivial (List.forall_mem_singleton.mpr ?_)
  exact (throughout_tuple_iff kept.elsewhere).mpr fun value present => (ofValues value present).2

/-- Items among which names are compared have names. -/
theorem isTuple_hasName_of_checkUnique
    {kind owner : String}
    {items : List Datum}
    (unique : Node.checkUnique kind owner (.tuple items) = .ok ()) :
    IsTuple HasName (.tuple items) := by
  refine ⟨items, rfl, fun item present => ?_⟩
  obtain ⟨name, named, -⟩ := Node.exists_name_of_checkDistinct unique item present
  exact Option.isSome_iff_exists.mpr ⟨name, named⟩

theorem Kept.argument
    (kept : Kept good)
    {name value : Datum}
    (ofValue : Throughout good value)
    (isMade : Build.argument name value = .ok made) :
    Throughout good made := by
  obtain ⟨converted, isConverted, isMade⟩ := bind_eq_ok_iff.mp isMade
  obtain ⟨label, rfl⟩ := Node.exists_of_argument isMade
  obtain ⟨isValue, ofConverted⟩ := kept.toValue ofValue isConverted
  exact kept.node isValue trivial (kept.named label ofConverted)

theorem Kept.property
    (kept : Kept good)
    {name value : Datum}
    (ofValue : Throughout good value)
    (isMade : Build.property name value = .ok made) :
    Throughout good made := by
  obtain ⟨converted, isConverted, isMade⟩ := bind_eq_ok_iff.mp isMade
  obtain ⟨label, rfl⟩ := Node.exists_of_objectField isMade
  obtain ⟨isValue, ofConverted⟩ := kept.toValue ofValue isConverted
  exact kept.node isValue trivial (kept.named label ofConverted)

theorem Kept.inputObject
    (kept : Kept good)
    {fields : List Datum}
    (ofFields : ∀ field ∈ fields, Throughout good field)
    (isMade : Build.inputObject fields = .ok made) :
    Throughout good made := by
  obtain ⟨unique, rfl⟩ := Node.exists_of_objectValue isMade
  refine kept.node (isTuple_hasName_of_checkUnique unique) (Node.nodup_of_checkUnique unique)
    (List.forall_mem_singleton.mpr ?_)
  exact (throughout_tuple_iff kept.elsewhere).mpr ofFields

theorem Kept.directive
    (kept : Kept good)
    {name : Datum}
    {items : List Datum}
    (ofItems : ∀ item ∈ items, Throughout good item)
    (isMade : Build.directive name items = .ok made) :
    Throughout good made := by
  obtain ⟨label, _, unique, rfl⟩ := Node.exists_of_directive isMade
  refine kept.node (isTuple_hasName_of_checkUnique unique) (Node.nodup_of_checkUnique unique)
    (kept.named label ?_)
  exact (throughout_tuple_iff kept.elsewhere).mpr (Build.throughout_flatten ofItems)

theorem Kept.conditional
    (kept : Kept good)
    {name : String}
    {condition : Datum}
    (ofCondition : Throughout good condition)
    (isMade : Build.conditional name condition = .ok made) :
    Throughout good made := by
  obtain ⟨argument, isArgument, isMade⟩ := bind_eq_ok_iff.mp isMade
  have ofArgument := kept.argument ofCondition isArgument
  exact kept.directive (List.forall_mem_singleton.mpr ofArgument) isMade

theorem Kept.field
    (kept : Kept good)
    {name label : Datum}
    {items : List Datum}
    (ofItems : ∀ item ∈ items, Throughout good item)
    (isMade : Build.field name items label = .ok made) :
    Throughout good made := by
  obtain ⟨sorted, isSorted, isMade⟩ := bind_eq_ok_iff.mp isMade
  obtain ⟨passed, alias?, _, unique, rfl⟩ := Node.exists_of_field isMade
  have ofSorted := Build.Sorted.throughout_of kept.elsewhere isSorted ofItems
  refine kept.node
    ⟨sorted.isTuple_of .argument, sorted.isTuple_of .directive, sorted.isTuple_of .selection⟩
    (Node.nodup_of_checkUnique unique) ?_
  simp [held, parts, ofSorted, throughout_ofLabel kept.elsewhere,
    throughout_ofLabel? kept.elsewhere]

theorem Kept.fragmentSpread
    (kept : Kept good)
    {fragment : Datum}
    {items : List Datum}
    (ofItems : ∀ item ∈ items, Throughout good item)
    (isMade : Build.fragmentSpread fragment items = .ok made) :
    Throughout good made := by
  obtain ⟨label, rfl⟩ := Build.exists_of_fragmentSpread isMade
  refine kept.node ⟨_, rfl, fun _ _ => trivial⟩ trivial (kept.named label ?_)
  exact (throughout_tuple_iff kept.elsewhere).mpr (Build.throughout_flatten ofItems)

theorem Kept.inlineFragment
    (kept : Kept good)
    {condition : Datum}
    {items : List Datum}
    (ofItems : ∀ item ∈ items, Throughout good item)
    (isMade : Build.inlineFragment condition items = .ok made) :
    Throughout good made := by
  obtain ⟨sorted, isSorted, isMade⟩ := bind_eq_ok_iff.mp isMade
  obtain ⟨condition?, rfl⟩ := Node.exists_of_inlineFragment isMade
  have ofSorted := Build.Sorted.throughout_of kept.elsewhere isSorted ofItems
  refine kept.node ⟨sorted.isTuple_of .directive, sorted.isTuple_of .selection⟩ trivial ?_
  simp [held, parts, ofSorted, throughout_ofLabel? kept.elsewhere]

theorem Kept.operation
    (kept : Kept good)
    {kind name : Datum}
    {items : List Datum}
    (ofKind : Throughout good kind)
    (ofItems : ∀ item ∈ items, Throughout good item)
    (isMade : Build.operation kind items name = .ok made) :
    Throughout good made := by
  obtain ⟨checkedKind, isKind, isMade⟩ := bind_eq_ok_iff.mp isMade
  obtain ⟨⟨passed, rest⟩, isNamed, isMade⟩ := bind_eq_ok_iff.mp isMade
  obtain ⟨sorted, isSorted, isMade⟩ := bind_eq_ok_iff.mp isMade
  obtain ⟨name?, _, unique, rfl⟩ := Node.exists_of_operation isMade
  have ofRest : ∀ item ∈ rest, Throughout good item :=
    fun item present => ofItems item (Build.mem_of_operationName isNamed item present)
  have ofKnown : ∀ known ∈ [query, mutation, subscription], Throughout good known := by
    simp [query, mutation, subscription, throughout_textMember kept.elsewhere]
  have ofCheckedKind : Throughout good checkedKind := by
    rcases Build.known_of_operationKind isKind with rfl | known
    · exact ofKind
    · exact ofKnown checkedKind known
  have ofSorted := Build.Sorted.throughout_of kept.elsewhere isSorted ofRest
  refine kept.node
    ⟨sorted.isTuple_of .variable, sorted.isTuple_of .directive, sorted.isTuple_of .selection⟩
    (Node.nodup_of_checkUnique unique) ?_
  simp [held, parts, ofSorted, ofCheckedKind, throughout_ofLabel? kept.elsewhere]

theorem Kept.fragment
    (kept : Kept good)
    {name condition : Datum}
    {items : List Datum}
    (ofItems : ∀ item ∈ items, Throughout good item)
    (isMade : Build.fragment name condition items = .ok made) :
    Throughout good made := by
  obtain ⟨sorted, isSorted, isMade⟩ := bind_eq_ok_iff.mp isMade
  obtain ⟨label, passed, rfl⟩ := Node.exists_of_fragmentDefinition isMade
  have ofSorted := Build.Sorted.throughout_of kept.elsewhere isSorted ofItems
  refine kept.node ⟨sorted.isTuple_of .directive, sorted.isTuple_of .selection⟩ trivial ?_
  simp [held, parts, ofSorted, throughout_ofLabel kept.elsewhere]

theorem Kept.document
    (kept : Kept good)
    {definitions : List Datum}
    (ofDefinitions : ∀ definition ∈ definitions, Throughout good definition)
    (isMade : Build.document definitions = .ok made) :
    Throughout good made := by
  obtain ⟨items, found, distinct, rfl⟩ := Node.exists_of_document isMade
  obtain rfl := Option.some.inj found
  obtain ⟨⟨operations, -⟩, ⟨fragments, -⟩, areDefinitions⟩ :=
    Node.nodup_of_checkDefinitions distinct
  refine kept.node ⟨_, rfl, areDefinitions⟩ ⟨operations, fragments⟩
    (List.forall_mem_singleton.mpr ?_)
  exact (throughout_tuple_iff kept.elsewhere).mpr (Build.throughout_flatten ofDefinitions)

/-- What a factory makes of good data is good. -/
theorem Kept.factory
    (kept : Kept good)
    {given : List Datum}
    (called : Factory given made)
    (ofGiven : ∀ item ∈ given, Throughout good item) :
    Throughout good made := by
  cases called with
  | namedType isMade =>
    obtain ⟨label, rfl⟩ := Node.exists_of_namedType isMade
    refine kept.node trivial trivial (List.forall_mem_singleton.mpr ?_)
    exact throughout_ofLabel kept.elsewhere label
  | listOf isMade | nonNull isMade =>
    obtain ⟨type, isType, rfl⟩ := map_eq_ok_iff.mp isMade
    obtain ⟨isTypeRef, ofType⟩ := kept.ofType (ofGiven _ List.mem_cons_self) isType
    exact kept.node isTypeRef trivial (List.forall_mem_singleton.mpr ofType)
  | declare isMade => exact kept.declare (ofGiven _ (by simp)) (ofGiven _ (by simp)) isMade
  | declarations isMade =>
    unfold Build.declarations at isMade
    split at isMade
    case h_1 => cases isMade
    case h_2 =>
      obtain rfl := Except.ok.inj isMade
      exact (throughout_tuple_iff kept.elsewhere).mpr ofGiven
  | property isMade => exact kept.property (ofGiven _ (by simp)) isMade
  | inputObject isMade => exact kept.inputObject ofGiven isMade
  | listValue isMade => exact kept.listValue ofGiven isMade
  | enumValue isMade =>
    obtain ⟨label, rfl⟩ := Node.exists_of_enumValue isMade
    refine kept.node trivial trivial (List.forall_mem_singleton.mpr ?_)
    exact throughout_ofLabel kept.elsewhere label
  | toValue isMade => exact (kept.toValue (ofGiven _ List.mem_cons_self) isMade).2
  | argument isMade => exact kept.argument (ofGiven _ (by simp)) isMade
  | directive isMade =>
    exact kept.directive (fun item among => ofGiven item (by simp [among])) isMade
  | conditional _ isMade => exact kept.conditional (ofGiven _ List.mem_cons_self) isMade
  | field isMade => exact kept.field (fun item among => ofGiven item (by simp [among])) isMade
  | fragmentSpread isMade =>
    exact kept.fragmentSpread (fun item among => ofGiven item (by simp [among])) isMade
  | inlineFragment isMade =>
    exact kept.inlineFragment (fun item among => ofGiven item (by simp [among])) isMade
  | operation isMade =>
    exact kept.operation (ofGiven _ List.mem_cons_self)
      (fun item among => ofGiven item (by simp [among])) isMade
  | fragment isMade => exact kept.fragment (fun item among => ofGiven item (by simp [among])) isMade
  | document isMade => exact kept.document ofGiven isMade

end Calls

end Datum

/-! ## Data put together -/

/-- Data that can be put together with some calls: parts come from data that is there,
nodes from calls, and all other data from what it holds. -/
inductive Built (calls : List Datum → Datum → Prop) : Datum → Prop
  | data {whole : Datum} :
      whole.parts = [] →
      (∀ direct ∈ whole.held, Built calls direct) →
      Built calls whole
  | call {given : List Datum} {made : Datum} :
      calls given made →
      (∀ item ∈ given, Built calls item) →
      Built calls made
  | part {direct whole : Datum} :
      direct ∈ whole.held →
      Built calls whole →
      Built calls direct

/-- What is asked of nodes only and kept by every call is true throughout everything that
can be put together. -/
theorem Built.throughout
    {calls : List Datum → Datum → Prop}
    {good : Datum → Prop}
    (asksNodes : AsksNodes good)
    (keep : ∀ given made, calls given made →
      (∀ item ∈ given, Throughout good item) → Throughout good made)
    {built : Datum}
    (isBuilt : Built calls built) :
    Throughout good built := by
  induction isBuilt with
  | data noParts _ ofHeld => exact (throughout_iff_of_no_parts asksNodes noParts).mpr ofHeld
  | call called _ ofGiven => exact keep _ _ called ofGiven
  | part isHeld _ ofWhole => exact (throughout_iff.mp ofWhole).2 _ isHeld
end GraphQL
