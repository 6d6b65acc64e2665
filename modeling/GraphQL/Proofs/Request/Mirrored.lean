import GraphQL.Proofs.Request.Mirror
import GraphQL.Proofs.Request.Typed
import GraphQL.Proofs.Source.Readable

/-!
# Mirrors of typed requests

The mirror of a typed request can be read back unless a fragment called `on` is referred
to in it, and it is complete exactly if no node of the request lacks selections or marks
a type twice.
-/

namespace GraphQL

/-! ## Nodes that are put into other nodes -/

namespace Datum

/-- The node is a value, or has values as its only parts. -/
def isInput : Datum → Bool
  | .bare _ _ | .variable _ _ _ | .nullValue | .booleanValue _ | .intValue _ | .floatValue _
  | .stringValue _ | .enumValue _ | .listValue _ | .objectField _ _ | .objectValue _
  | .argument _ _ | .directive _ _ => true
  | _ => false

/-- The node has the selections that it has to have, and marks no type twice. -/
def Complete (node : Datum) : Prop :=
  node.lacksSelections = false ∧ node.isDoublyNonNull = false

theorem complete_of_isInput
    {node : Datum}
    (isInput : node.isInput = true) :
    node.Complete := by
  cases node with
  | fragmentDefinition | inlineFragment | operation | nonNullType => cases isInput
  | _ => exact ⟨rfl, rfl⟩

/-- All nodes of some data are complete if its first node and the others are. -/
theorem complete_cons_iff
    {given first : Datum}
    {rest : List Datum}
    (nodes : given.nodes = first :: rest) :
    (∀ node ∈ given.nodes, node.Complete) ↔
      first.Complete ∧ ∀ node ∈ rest, node.Complete := by
  rw [nodes, List.forall_mem_cons]

theorem complete_iff_of_selections
    {node : Datum}
    {selections : List Datum}
    (lacks : node.lacksSelections = selections.isEmpty)
    (undoubled : node.isDoublyNonNull = false) :
    node.Complete ↔ selections ≠ [] := by
  rw [Complete, lacks, undoubled, List.isEmpty_eq_false_iff]
  simp

end Datum

namespace Typed

variable {named : Label → Prop}

/-! ## Values -/

/-- If no item mentions a variable, then each of them does not. -/
theorem containsVariable_of_anyItem
    {items : List Datum}
    (noVariable : Node.anyItem items = .ok false) :
    ∀ item ∈ items, Node.containsVariable item = .ok false := by
  induction items with
  | nil => simp
  | cons first rest inductionHypothesis =>
    rw [Node.anyItem] at noVariable
    split at noVariable
    case h_1 noneInFirst =>
      exact List.forall_mem_cons.mpr ⟨noneInFirst, inductionHypothesis noVariable⟩
    case h_2 inFirst => exact absurd noVariable inFirst

/-- If no field mentions a variable, then none of their values does. -/
theorem containsVariable_of_anyField
    {fields : List (Label × Datum)}
    (noVariable : Node.anyField (fields.map fun field => .objectField field.1 field.2) = .ok false) :
    ∀ field ∈ fields, Node.containsVariable field.2 = .ok false := by
  induction fields with
  | nil => simp
  | cons first rest inductionHypothesis =>
    rw [List.map_cons, Node.anyField] at noVariable
    split at noVariable
    case h_1 noneInFirst =>
      exact List.forall_mem_cons.mpr ⟨noneInFirst, inductionHypothesis noVariable⟩
    case h_2 inFirst => exact absurd noVariable inFirst

/-- The mirror of a typed value can be read back, also as a constant if the value
mentions no variable. -/
theorem Value.readable
    {given : Datum}
    (typed : Value named given)
    {constant : Bool}
    (isConstant : constant = true → Node.containsVariable given = .ok false) :
    (Mirror.value given).Readable constant := by
  induction typed with
  | @reference name type default _ =>
    cases constant with
    | false =>
      rw [Mirror.value]
      exact .reference name.text rfl
    | true => cases isConstant rfl
  | null => simpa [Mirror.value] using Source.Value.Readable.null
  | boolean value =>
    rw [Mirror.value]
    exact .boolean _
  | int _ =>
    rw [Mirror.value]
    exact .int _
  | float _ =>
    rw [Mirror.value]
    exact .float _
  | decimal _ =>
    rw [Mirror.value]
    exact .float _
  | string _ =>
    rw [Mirror.value]
    exact .string _ _
  | @enum symbol _ notReserved =>
    rw [Mirror.value]
    exact .enum symbol.text notReserved
  | @list items _ inductionHypothesis =>
    rw [Mirror.value, Mirror.values_eq_map]
    refine .list _ (List.forall_mem_map.mpr ?_)
    intro item present
    apply inductionHypothesis item present
    intro isTrue
    exact containsVariable_of_anyItem (isConstant isTrue) item present
  | @object fields _ _ inductionHypothesis =>
    rw [objectFields, Mirror.value, Mirror.objectFields_eq_map]
    refine .object _ (List.forall_mem_map.mpr ?_)
    intro field present
    apply inductionHypothesis field present
    intro isTrue
    exact containsVariable_of_anyField (isConstant isTrue) field present
  | bare _ => simpa [Mirror.value] using Source.Value.Readable.null

/-- The nodes of a value are values and their fields. -/
theorem Value.isInput_of_mem
    {given : Datum}
    (typed : Value named given) :
    ∀ node ∈ given.nodes, node.isInput = true := by
  induction typed with
  | list _ inductionHypothesis =>
    rw [Datum.nodes_listValue, List.forall_mem_cons, Datum.nodes_tuple, List.forall_mem_flatMap]
    exact ⟨rfl, inductionHypothesis⟩
  | object _ _ inductionHypothesis =>
    rw [objectFields, Datum.nodes_objectValue, List.forall_mem_cons, Datum.nodes_tuple,
      List.forall_mem_flatMap, List.forall_mem_map]
    refine ⟨rfl, ?_⟩
    intro field present
    rw [Datum.nodes_objectField, List.forall_mem_cons]
    exact ⟨rfl, inductionHypothesis field present⟩
  | _ => simp [Datum.nodes, Datum.isInput]

/-! ## Arguments and directives -/

theorem Arguments.readable
    {given : Datum}
    (typed : Arguments named given) :
    ∀ argument ∈ Mirror.items Mirror.argument given, argument.value.Readable false := by
  obtain ⟨_, typed⟩ := typed
  rw [Mirror.items, List.map_map, List.forall_mem_map]
  intro argument present
  exact (typed argument present).readable nofun

theorem Arguments.isInput_of_mem
    {given : Datum}
    (typed : Arguments named given) :
    ∀ node ∈ given.nodes, node.isInput = true := by
  obtain ⟨_, typed⟩ := typed
  rw [Datum.nodes_tuple, List.forall_mem_flatMap, List.forall_mem_map]
  intro argument present
  rw [Datum.nodes_argument, List.forall_mem_cons]
  exact ⟨rfl, (typed argument present).isInput_of_mem⟩

theorem Directives.readable
    {given : Datum}
    (typed : Directives named given) :
    ∀ directive ∈ Mirror.items Mirror.directive given, directive.Readable false := by
  obtain ⟨_, typed⟩ := typed
  rw [Mirror.items, List.map_map, List.forall_mem_map]
  intro directive present
  exact (typed directive present).readable

theorem Directives.isInput_of_mem
    {given : Datum}
    (typed : Directives named given) :
    ∀ node ∈ given.nodes, node.isInput = true := by
  obtain ⟨_, typed⟩ := typed
  rw [Datum.nodes_tuple, List.forall_mem_flatMap, List.forall_mem_map]
  intro directive present
  rw [Datum.nodes_directive, List.forall_mem_cons]
  exact ⟨rfl, (typed directive present).isInput_of_mem⟩

theorem Value.complete
    {given : Datum}
    (typed : Value named given) :
    ∀ node ∈ given.nodes, node.Complete :=
  fun node present => Datum.complete_of_isInput (typed.isInput_of_mem node present)

theorem Arguments.complete
    {given : Datum}
    (typed : Arguments named given) :
    ∀ node ∈ given.nodes, node.Complete :=
  fun node present => Datum.complete_of_isInput (typed.isInput_of_mem node present)

theorem Directives.complete
    {given : Datum}
    (typed : Directives named given) :
    ∀ node ∈ given.nodes, node.Complete :=
  fun node present => Datum.complete_of_isInput (typed.isInput_of_mem node present)

/-! ## Selections -/

/-- The mirror of a typed selection can be read back if no fragment in it is called
`on`. -/
theorem Selection.readable
    {given : Datum}
    (typed : Selection named given)
    (notOn : ∀ node ∈ given.nodes, node.isSpreadOfOn = false) :
    (Mirror.selection given).Readable := by
  induction typed with
  | @field name alias? arguments directives selections _ _ typedArguments typedDirectives _
      inductionHypothesis =>
    rw [Mirror.selection, Mirror.selections_eq_map]
    refine .field _ _ _ _ _ typedArguments.readable typedDirectives.readable
      (List.forall_mem_map.mpr ?_)
    intro selection present
    apply inductionHypothesis selection present
    intro node inside
    apply notOn node
    rw [Datum.nodes_field, Datum.nodes_tuple]
    simp only [List.mem_cons, List.mem_append, List.mem_flatMap]
    exact .inr (.inr ⟨selection, present, inside⟩)
  | @spread name directives _ typedDirectives =>
    rw [Mirror.selection]
    refine .spread _ _ ?_ typedDirectives.readable
    have notOnItself := notOn _ (by rw [Datum.nodes_fragmentSpread]; exact List.mem_cons_self)
    simpa [Datum.isSpreadOfOn] using notOnItself
  | @inlineFragment condition? directives selections _ typedDirectives _ inductionHypothesis =>
    rw [Mirror.selection, Mirror.selections_eq_map]
    refine .inlineFragment _ _ _ typedDirectives.readable (List.forall_mem_map.mpr ?_)
    intro selection present
    apply inductionHypothesis selection present
    intro node inside
    apply notOn node
    rw [Datum.nodes_inlineFragment, Datum.nodes_tuple]
    simp only [List.mem_cons, List.mem_append, List.mem_flatMap]
    exact .inr (.inr ⟨selection, present, inside⟩)
  | bare _ => simpa [Mirror.selection] using .spread "" [] (by decide) nofun

/-- The mirrors of items are filled if those of each item are. -/
theorem filled_iff_of_items
    {items : List Datum}
    (filled : ∀ item ∈ items, (Mirror.selection item).Filled ↔ ∀ node ∈ item.nodes, node.Complete) :
    (∀ selection ∈ items.map Mirror.selection, selection.Filled) ↔
      ∀ node ∈ (Datum.tuple items).nodes, node.Complete := by
  rw [List.forall_mem_map, Datum.nodes_tuple, List.forall_mem_flatMap]
  exact forall₂_congr filled

/-- The mirror of a typed selection is filled exactly if all nodes are complete. -/
theorem Selection.filled_iff
    {given : Datum}
    (typed : Selection named given) :
    (Mirror.selection given).Filled ↔ ∀ node ∈ given.nodes, node.Complete := by
  induction typed with
  | @field name alias? arguments directives selections _ _ typedArguments typedDirectives _
      inductionHypothesis =>
    have complete : (Datum.field name alias? arguments directives (.tuple selections)).Complete :=
      ⟨rfl, rfl⟩
    rw [Mirror.selection, Mirror.selections_eq_map, Source.Selection.Filled,
      Source.Selection.allFilled_iff, filled_iff_of_items inductionHypothesis,
      Datum.complete_cons_iff (Datum.nodes_field _ _ _ _ _), List.forall_mem_append,
      List.forall_mem_append]
    constructor
    · intro filled
      exact ⟨complete, ⟨typedArguments.complete, typedDirectives.complete⟩, filled⟩
    · rintro ⟨-, -, filled⟩
      exact filled
  | @spread name directives _ typedDirectives =>
    have complete : (Datum.fragmentSpread name directives).Complete := ⟨rfl, rfl⟩
    rw [Mirror.selection, Source.Selection.Filled,
      Datum.complete_cons_iff (Datum.nodes_fragmentSpread _ _)]
    exact ⟨fun _ => ⟨complete, typedDirectives.complete⟩, fun _ => trivial⟩
  | @inlineFragment condition? directives selections _ typedDirectives _ inductionHypothesis =>
    have complete : (Datum.inlineFragment condition? directives (.tuple selections)).Complete ↔
        selections ≠ [] :=
      Datum.complete_iff_of_selections (by cases selections <;> rfl) rfl
    rw [Mirror.selection, Mirror.selections_eq_map, Source.Selection.Filled,
      Source.Selection.allFilled_iff, filled_iff_of_items inductionHypothesis,
      Datum.complete_cons_iff (Datum.nodes_inlineFragment _ _ _), List.forall_mem_append,
      complete, ne_eq, List.map_eq_nil_iff]
    constructor
    · rintro ⟨nonempty, filled⟩
      exact ⟨nonempty, typedDirectives.complete, filled⟩
    · rintro ⟨nonempty, -, filled⟩
      exact ⟨nonempty, filled⟩
  | bare serial =>
    have complete : (Datum.bare .selection serial).Complete := ⟨rfl, rfl⟩
    simp [Mirror.selection, Source.Selection.Filled, Datum.nodes, complete]

/-! ## Definitions -/

/-- The mirror of a type is marked as the type is. -/
theorem TypeRef.isNonNull_mirror
    {given : Datum}
    (typed : TypeRef named given) :
    (Datum.nonNullType given).isDoublyNonNull = (Mirror.typeRef given).isNonNull := by
  cases typed <;> rfl

/-- No part of the mirror of a type is marked twice exactly if all nodes are complete. -/
theorem TypeRef.undoubled_iff
    {given : Datum}
    (typed : TypeRef named given) :
    (Mirror.typeRef given).Undoubled ↔ ∀ node ∈ given.nodes, node.Complete := by
  induction typed with
  | @name label _ =>
    have complete : (Datum.namedType label).Complete := ⟨rfl, rfl⟩
    rw [Mirror.typeRef, Source.TypeRef.Undoubled]
    simp [Datum.nodes, complete]
  | @list of _ inductionHypothesis =>
    have complete : (Datum.listType of).Complete := ⟨rfl, rfl⟩
    rw [Mirror.typeRef, Source.TypeRef.Undoubled, inductionHypothesis,
      Datum.complete_cons_iff (Datum.nodes_listType _)]
    simp [complete]
  | @nonNull of typed inductionHypothesis =>
    have complete : (Datum.nonNullType of).Complete ↔ (Mirror.typeRef of).isNonNull = false := by
      rw [Datum.Complete, typed.isNonNull_mirror]
      simp [Datum.lacksSelections]
    rw [Mirror.typeRef, Source.TypeRef.Undoubled, inductionHypothesis,
      Datum.complete_cons_iff (Datum.nodes_nonNullType _), complete]
  | bare serial =>
    have complete : (Datum.bare .typeRef serial).Complete := ⟨rfl, rfl⟩
    simp [Mirror.typeRef, Source.TypeRef.Undoubled, Datum.nodes, complete]

/-- A default value has a mirror of its own. -/
theorem Value.mirror_variable
    (name : Label)
    (type : Datum)
    {default : Datum}
    (typed : Value named default) :
    Mirror.variableDefinition (.variable name type default) =
      ⟨name.text, Mirror.typeRef type, some (Mirror.value default), []⟩ := by
  cases typed <;> rfl

/-- The mirror of a declaration can be read back. -/
theorem Declaration.readable
    {given : Datum}
    (typed : Declaration named given) :
    (Mirror.variableDefinition given).Readable := by
  cases typed with
  | plain _ _ => exact ⟨nofun, nofun⟩
  | @withDefault name type default _ _ typedDefault constant =>
    rw [typedDefault.mirror_variable]
    refine ⟨?_, nofun⟩
    rintro _ ⟨⟩
    exact typedDefault.readable fun _ => constant

/-- All nodes of a declaration are complete exactly if no part of its type is marked
twice, as its default value is always complete. -/
theorem TypeRef.undoubled_iff_of_declared
    {type default : Datum}
    (typed : TypeRef named type)
    (name : Label)
    (complete : ∀ node ∈ default.nodes, node.Complete) :
    (Mirror.typeRef type).Undoubled ↔
      ∀ node ∈ (Datum.variable name type default).declaredNodes, node.Complete := by
  rw [Datum.nodes_variable_declared, List.forall_mem_cons, List.forall_mem_append,
    typed.undoubled_iff]
  constructor
  · intro undoubled
    exact ⟨⟨rfl, rfl⟩, undoubled, complete⟩
  · rintro ⟨-, undoubled, -⟩
    exact undoubled

/-- No part of a declared type is marked twice exactly if all nodes are complete. -/
theorem Declaration.undoubled_iff
    {given : Datum}
    (typed : Declaration named given) :
    (Mirror.variableDefinition given).type.Undoubled ↔
      ∀ node ∈ given.declaredNodes, node.Complete := by
  cases typed with
  | @plain name type _ typedType =>
    have nullComplete : Datum.null.Complete := ⟨rfl, rfl⟩
    exact typedType.undoubled_iff_of_declared name (by simp [Datum.nodes, nullComplete])
  | @withDefault name type default _ typedType typedDefault _ =>
    rw [typedDefault.mirror_variable]
    exact typedType.undoubled_iff_of_declared name typedDefault.complete

/-- The mirror of a typed definition can be read back if no fragment called `on` is
referred to. -/
theorem Definition.readable
    {given : Datum}
    (typed : Definition named given)
    (notOn : ∀ node ∈ given.nodes, node.isSpreadOfOn = false) :
    (Mirror.definition given).Readable := by
  cases typed with
  | @operation kind name? declarations directives selections _ typedDeclarations typedDirectives
      typedSelections =>
    rw [Datum.nodes_operation, List.forall_mem_cons, List.forall_mem_append, Datum.nodes_tuple,
      List.forall_mem_flatMap] at notOn
    obtain ⟨_, _, notOnSelections⟩ := notOn
    rw [Mirror.definition]
    refine ⟨List.forall_mem_map.mpr ?_, typedDirectives.readable, List.forall_mem_map.mpr ?_⟩
    · intro declared present
      exact (typedDeclarations declared present).readable
    · intro selection present
      exact (typedSelections selection present).readable (notOnSelections selection present)
  | @fragment name condition directives selections _ named _ typedDirectives typedSelections =>
    rw [Datum.nodes_fragmentDefinition, List.forall_mem_cons, List.forall_mem_append,
      Datum.nodes_tuple, List.forall_mem_flatMap] at notOn
    obtain ⟨_, _, notOnSelections⟩ := notOn
    rw [Mirror.definition]
    refine ⟨named, typedDirectives.readable, List.forall_mem_map.mpr ?_⟩
    intro selection present
    exact (typedSelections selection present).readable (notOnSelections selection present)

/-- The mirror of a typed definition is complete exactly if all nodes are. -/
theorem Definition.complete_iff
    {given : Datum}
    (typed : Definition named given) :
    (Mirror.definition given).Complete ↔ ∀ node ∈ given.nodes, node.Complete := by
  cases typed with
  | @operation kind name? declarations directives selections _ typedDeclarations typedDirectives
      typedSelections =>
    have complete : (Datum.operation (Typed.kind kind) name? (.tuple declarations) directives
        (.tuple selections)).Complete ↔ selections ≠ [] :=
      Datum.complete_iff_of_selections (by cases selections <;> rfl) rfl
    have undoubled : (∀ declared ∈ declarations.map Mirror.variableDefinition,
        declared.type.Undoubled) ↔
          ∀ node ∈ (Datum.tuple declarations).declaredNodes, node.Complete := by
      rw [List.forall_mem_map, Datum.declaredNodes_tuple, List.forall_mem_flatMap]
      apply forall₂_congr
      intro declared present
      exact (typedDeclarations declared present).undoubled_iff
    have filled := filled_iff_of_items fun item present =>
      (typedSelections item present).filled_iff
    rw [Mirror.definition, Source.Definition.Complete, Mirror.items, Mirror.items, undoubled,
      filled, Datum.complete_cons_iff (Datum.nodes_operation _ _ _ _ _), List.forall_mem_append,
      List.forall_mem_append, complete, ne_eq, List.map_eq_nil_iff]
    constructor
    · rintro ⟨declared, nonempty, filled⟩
      exact ⟨nonempty, ⟨declared, typedDirectives.complete⟩, filled⟩
    · rintro ⟨nonempty, ⟨declared, -⟩, filled⟩
      exact ⟨declared, nonempty, filled⟩
  | @fragment name condition directives selections _ _ _ typedDirectives typedSelections =>
    have complete : (Datum.fragmentDefinition name condition directives
        (.tuple selections)).Complete ↔ selections ≠ [] :=
      Datum.complete_iff_of_selections (by cases selections <;> rfl) rfl
    have filled := filled_iff_of_items fun item present =>
      (typedSelections item present).filled_iff
    rw [Mirror.definition, Source.Definition.Complete, Mirror.items, filled,
      Datum.complete_cons_iff (Datum.nodes_fragmentDefinition _ _ _ _), List.forall_mem_append,
      complete, ne_eq, List.map_eq_nil_iff]
    constructor
    · rintro ⟨nonempty, filled⟩
      exact ⟨nonempty, typedDirectives.complete, filled⟩
    · rintro ⟨nonempty, -, filled⟩
      exact ⟨nonempty, filled⟩

/-! ## Documents -/

/-- The mirror of a typed document can be read back if no fragment called `on` is
referred to. -/
theorem Document.readable
    {given : Datum}
    (typed : Document named given)
    (notOn : ∀ node ∈ given.nodes, node.isSpreadOfOn = false) :
    ∀ definition ∈ (Mirror.document given).definitions, definition.Readable := by
  obtain ⟨typed⟩ := typed
  rw [Datum.nodes_document, List.forall_mem_cons, Datum.nodes_tuple,
    List.forall_mem_flatMap] at notOn
  rw [Mirror.document, Mirror.items, List.forall_mem_map]
  intro definition present
  exact (typed definition present).readable (notOn.2 definition present)

/-- The mirror of a typed document is complete exactly if the document holds a definition
and all of its nodes are complete. -/
theorem Document.complete_iff
    {given : Datum}
    (typed : Document named given) :
    (Mirror.document given).Complete ↔
      given ≠ .document (.tuple []) ∧ ∀ node ∈ given.nodes, node.Complete := by
  obtain @⟨definitions, typed⟩ := typed
  have complete : (Datum.document (.tuple definitions)).Complete := ⟨rfl, rfl⟩
  have completeEach : (∀ definition ∈ definitions.map Mirror.definition, definition.Complete) ↔
      ∀ node ∈ (Datum.tuple definitions).nodes, node.Complete := by
    rw [List.forall_mem_map, Datum.nodes_tuple, List.forall_mem_flatMap]
    apply forall₂_congr
    intro definition present
    exact (typed definition present).complete_iff
  rw [Mirror.document, Source.Document.Complete, Mirror.items, completeEach,
    Datum.complete_cons_iff (Datum.nodes_document _), ne_eq, List.map_eq_nil_iff]
  simp [complete]

end Typed
end GraphQL
