import GraphQL.Proofs.Request.Writing

/-!
# What cannot be put into text

What goes wrong in the writing of a typed request is told by its nodes: a number has no
numeral, or a node is of no particular kind.  The writing stops at the first node of which
something is told.
-/

namespace GraphQL

open Outcome

namespace Datum

/-- What is wrong with a node of a typed request, if anything is. -/
def fault? : Datum → Option Fault
  | .intValue given => if given.asInt?.any Number.Whole.isLong then some .tooLongToWrite else none
  | .floatValue (.float number) =>
    if number.isFinite then none else some (.noLiteral number.text)
  | .floatValue (.decimal number) =>
    if number.isFinite then none else some (.noLiteral number.text)
  | .bare .typeRef _ => some .noTypeText
  | .bare .value _ => some (.misplaced .value "Value")
  | .bare .selection _ => some (.misplaced .selection "Selection")
  | .bare sort serial => some (.misplaced .definition (Datum.bare sort serial).className)
  | _ => none

/-- Something is wrong with the nodes that cannot be put into text. -/
theorem isSome_fault? (node : Datum) : node.fault?.isSome = node.isUnprintable := by
  cases node with
  | intValue given =>
    rw [fault?, isUnprintable]
    cases given.asInt?.any Number.Whole.isLong <;> rfl
  | floatValue given =>
    cases given with
    | scalar value =>
      cases value with
      | float number =>
        rw [fault?, isUnprintable]
        cases number.isFinite <;> rfl
      | decimal number =>
        rw [fault?, isUnprintable]
        cases number.isFinite <;> rfl
      | _ => rfl
    | _ => rfl
  | bare sort serial => cases sort <;> rfl
  | _ => rfl

theorem fault?_eq_none_of_printable
    {node : Datum}
    (printable : node.isUnprintable = false) :
    node.fault? = none := by
  rwa [← isSome_fault?, Option.isSome_eq_false_iff, Option.isNone_iff_eq_none] at printable

end Datum

variable {named : Label → Prop}

namespace Written

/-- Entries stop the writing where their values do. -/
theorem stops_entries
    {make : Label → Datum → Datum}
    (nodes : ∀ name given, (make name given).nodes = make name given :: given.nodes)
    (printable : ∀ name given, (make name given).isUnprintable = false)
    (nameOfMade : ∀ name given, nameOf (make name given) = .ok name.shown)
    (valueOfMade : ∀ name given, valueOf (make name given) = (value given).map (embed given))
    {entries : List (Label × Datum)}
    (stops : ∀ entry ∈ entries, Stops Datum.fault? (value entry.2) entry.2.nodes) :
    Stops Datum.fault? (argumentsOf (.tuple (entries.map fun entry => make entry.1 entry.2)))
      (Datum.tuple (entries.map fun entry => make entry.1 entry.2)).nodes := by
  rw [argumentsOf_tuple, Datum.nodes_tuple]
  refine .unlessEmpty (List.forall_mem_map.mpr fun given among => ?_)
  rw [nodes, entry, nameOfMade, valueOfMade, ok_bind]
  exact .skip (Datum.fault?_eq_none_of_printable (printable _ _))
    (((stops given among).map _).bind_ok _)

/-- Selections stop the writing where each of them does. -/
theorem stops_selectionsOf_typed
    {items : List Datum}
    (stops : ∀ item ∈ items, Stops Datum.fault? (selection item) item.nodes) :
    Stops Datum.fault? (selectionsOf (.tuple items)) (Datum.tuple items).nodes := by
  rw [selectionsOf_tuple, Datum.nodes_tuple]
  exact .unlessEmpty stops

end Written

namespace Typed

open Written

theorem Value.stops
    {given : Datum}
    (typed : Value named given) :
    Stops Datum.fault? (value given) given.nodes := by
  induction typed with
  | @int given number isInt =>
    refine .single ?_
    rw [value, Numeral.whole_of_asInt? isInt, Datum.fault?, isInt, Option.any_some]
    cases Number.Whole.isLong number <;> rfl
  | float number =>
    refine .single ?_
    rw [value, Numeral.fractional_float, Datum.fault?]
    cases number.isFinite <;> rfl
  | decimal number =>
    refine .single ?_
    rw [value, Numeral.fractional_decimal, Datum.fault?]
    cases number.isFinite <;> rfl
  | string isText =>
    refine .single ?_
    rw [value, stringLiteral, isText]
    rfl
  | list typed inductionHypothesis =>
    rw [value, valuesOf, values_eq_mapM, Datum.nodes_listValue, Datum.nodes_tuple]
    exact .skip rfl ((Stops.mapM inductionHypothesis).map _)
  | object isNamed typed inductionHypothesis =>
    rw [value, Datum.nodes_objectValue]
    exact .skip rfl ((stops_entries Datum.nodes_objectField (fun _ _ => rfl) (fun _ _ => rfl)
      (fun _ _ => rfl) inductionHypothesis).map _)
  | _ => exact .single rfl

theorem Arguments.stops
    {given : Datum}
    (typed : Arguments named given) :
    Stops Datum.fault? (argumentsOf given) given.nodes := by
  obtain ⟨-, typed⟩ := typed
  exact stops_entries Datum.nodes_argument (fun _ _ => rfl) (fun _ _ => rfl) (fun _ _ => rfl)
    fun argument among => (typed argument among).stops

theorem Directives.stops
    {given : Datum}
    (typed : Directives named given) :
    Stops Datum.fault? (directivesOf given) given.nodes := by
  obtain ⟨-, typed⟩ := typed
  rw [directivesOf, directives_eq_mapM, Datum.nodes_tuple]
  refine Stops.mapM (List.forall_mem_map.mpr fun applied among => ?_)
  exact .skip rfl ((typed applied among).stops.bind_ok _)

theorem Selection.stops
    {given : Datum}
    (typed : Selection named given) :
    Stops Datum.fault? (selection given) given.nodes := by
  induction typed with
  | @field name alias? _ _ _ isNamed aliasNamed typedArguments typedDirectives typed
      inductionHypothesis =>
    rw [Datum.nodes_field, List.append_assoc]
    have ofSelections := stops_selectionsOf_typed inductionHypothesis
    cases alias? with
    | none =>
      exact .skip rfl (typedArguments.stops.bind fun _ _ =>
        typedDirectives.stops.bind fun _ _ => ofSelections.bind_ok _)
    | some label =>
      exact .skip rfl (typedArguments.stops.bind fun _ _ =>
        typedDirectives.stops.bind fun _ _ => ofSelections.bind_ok _)
  | spread isNamed typedDirectives => exact .skip rfl (typedDirectives.stops.map _)
  | inlineFragment isNamed typedDirectives typed inductionHypothesis =>
    have ofSelections := stops_selectionsOf_typed inductionHypothesis
    exact .skip rfl (typedDirectives.stops.bind fun _ _ => ofSelections.bind_ok _)
  | bare serial => exact .single rfl

theorem TypeRef.stops
    {given : Datum}
    (typed : TypeRef named given) :
    Stops Datum.fault? (typeRef given) given.nodes := by
  induction typed with
  | name isNamed => exact .single rfl
  | list typed inductionHypothesis => exact .skip rfl (inductionHypothesis.map _)
  | nonNull typed inductionHypothesis => exact .skip rfl (inductionHypothesis.map _)
  | bare serial => exact .single rfl

theorem Declaration.stops
    {given : Datum}
    (typed : Declaration named given) :
    Stops Datum.fault? (variableDefinition given) given.declaredNodes := by
  cases typed with
  | plain isNamed typedType =>
    rw [variableDefinition_variable, Datum.nodes_variable_declared]
    exact .skip rfl (typedType.stops.bind fun _ _ => .single rfl)
  | @withDefault name type default isNamed typedType typedDefault constant =>
    rw [variableDefinition_variable, Datum.nodes_variable_declared,
      defaultOf_variable name type typedDefault]
    exact .skip rfl (typedType.stops.bind fun _ _ => (typedDefault.stops.map _).bind_ok _)

theorem Definition.stops
    {given : Datum}
    (typed : Definition named given) :
    Stops Datum.fault? (definition given) given.nodes := by
  cases typed with
  | operation kind isNamed typedDeclared typedDirectives typedSelections =>
    rw [definition_operation, Datum.nodes_operation, List.append_assoc, Datum.declaredNodes_tuple,
      variablesOf_tuple]
    have ofDeclared := Stops.unlessEmpty fun item among => (typedDeclared item among).stops
    have ofSelections := stops_selectionsOf_typed fun item among =>
      (typedSelections item among).stops
    exact .skip rfl (ofDeclared.bind fun _ _ => typedDirectives.stops.bind fun _ _ =>
      ofSelections.bind_ok _)
  | fragment isNamed notOn conditionNamed typedDirectives typedSelections =>
    have ofSelections := stops_selectionsOf_typed fun item among =>
      (typedSelections item among).stops
    exact .skip rfl (typedDirectives.stops.bind fun _ _ => ofSelections.bind_ok _)

/-- The writing of a typed request stops at the first node with which something is wrong. -/
theorem Document.stops
    {given : Datum}
    (typed : Document named given) :
    Stops Datum.fault? (document given) given.nodes := by
  obtain ⟨typed⟩ := typed
  rw [document, definitionsOf, definitions_eq_mapM, Datum.nodes_document, Datum.nodes_tuple]
  exact .skip rfl (.mapM fun definition among => (typed definition among).stops)

end Typed
end GraphQL
