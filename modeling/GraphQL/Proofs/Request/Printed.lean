import GraphQL.Proofs.Request.Name
import GraphQL.Proofs.Request.Placement
import GraphQL.Proofs.Request.RoundTrip
import GraphQL.Proofs.Request.Unprintable

/-!
# Values that are printed

A value is printed where it stands in an argument or is the default value of a variable
that is declared, alone or within lists and objects.  A variable that is mentioned is
printed as its name, whatever its own default value is.  A request whose parts are what
they are declared to be, and whose whole numbers are not too long, is built exactly if every
number that is printed is finite and no value that is printed is of no particular kind;
otherwise it cannot be put into text.
-/

namespace GraphQL

open Outcome

namespace Datum

/-! ## Where values are printed -/

/-- A value stands in another: it is that value, or stands in an item of the list or in a
field of the object that it is. -/
inductive InValue (found : Datum) : Datum → Prop
  | self : InValue found found
  | item {items : List Datum} {item : Datum} :
      item ∈ items →
      InValue found item →
      InValue found (.listValue (.tuple items))
  | field {fields : List Datum} {name : Label} {given : Datum} :
      .objectField name given ∈ fields →
      InValue found given →
      InValue found (.objectValue (.tuple fields))

/-- A value stands in an argument. -/
inductive InArguments (found : Datum) : Datum → Prop
  | argument {arguments : List Datum} {name : Label} {given : Datum} :
      .argument name given ∈ arguments →
      InValue found given →
      InArguments found (.tuple arguments)

/-- A value stands in an argument of a directive. -/
inductive InDirectives (found : Datum) : Datum → Prop
  | directive {directives : List Datum} {name : Label} {arguments : Datum} :
      .directive name arguments ∈ directives →
      InArguments found arguments →
      InDirectives found (.tuple directives)

/-- A value is printed in a selection, or in one below it. -/
inductive InSelection (found : Datum) : Datum → Prop
  | argument {name : Label} {alias? : Option Label} {arguments directives selections : Datum} :
      InArguments found arguments →
      InSelection found (.field name alias? arguments directives selections)
  | fieldDirective {name : Label} {alias? : Option Label}
      {arguments directives selections : Datum} :
      InDirectives found directives →
      InSelection found (.field name alias? arguments directives selections)
  | fieldSelection {name : Label} {alias? : Option Label} {arguments directives : Datum}
      {selections : List Datum} {selection : Datum} :
      selection ∈ selections →
      InSelection found selection →
      InSelection found (.field name alias? arguments directives (.tuple selections))
  | spreadDirective {name : Label} {directives : Datum} :
      InDirectives found directives →
      InSelection found (.fragmentSpread name directives)
  | inlineDirective {condition? : Option Label} {directives selections : Datum} :
      InDirectives found directives →
      InSelection found (.inlineFragment condition? directives selections)
  | inlineSelection {condition? : Option Label} {directives : Datum} {selections : List Datum}
      {selection : Datum} :
      selection ∈ selections →
      InSelection found selection →
      InSelection found (.inlineFragment condition? directives (.tuple selections))

/-- A value is printed in a definition. -/
inductive InDefinition (found : Datum) : Datum → Prop
  | default {kind : Datum} {name? : Option Label} {declared : List Datum}
      {directives selections : Datum} {name : Label} {type default : Datum} :
      .variable name type default ∈ declared →
      default ≠ .null →
      InValue found default →
      InDefinition found (.operation kind name? (.tuple declared) directives selections)
  | operationDirective {kind : Datum} {name? : Option Label}
      {declared directives selections : Datum} :
      InDirectives found directives →
      InDefinition found (.operation kind name? declared directives selections)
  | operationSelection {kind : Datum} {name? : Option Label} {declared directives : Datum}
      {selections : List Datum} {selection : Datum} :
      selection ∈ selections →
      InSelection found selection →
      InDefinition found (.operation kind name? declared directives (.tuple selections))
  | fragmentDirective {name condition : Label} {directives selections : Datum} :
      InDirectives found directives →
      InDefinition found (.fragmentDefinition name condition directives selections)
  | fragmentSelection {name condition : Label} {directives : Datum}
      {selections : List Datum} {selection : Datum} :
      selection ∈ selections →
      InSelection found selection →
      InDefinition found (.fragmentDefinition name condition directives (.tuple selections))

/-- A value is printed in a document. -/
inductive Printed (found : Datum) : Datum → Prop
  | definition {definitions : List Datum} {definition : Datum} :
      definition ∈ definitions →
      InDefinition found definition →
      Printed found (.document (.tuple definitions))

/-- The value is of no particular kind. -/
def isBareValue : Datum → Bool
  | .bare .value _ => true
  | _ => false

/-- The type, selection or definition is of no particular kind. -/
def isBareNode : Datum → Bool
  | .bare .value _ => false
  | .bare _ _ => true
  | _ => false

theorem isUnprintable_iff {given : Datum} :
    given.isUnprintable = true ∧ given.isBareNode = false ↔
      given.isNonFinite = true ∨ given.isBareValue = true ∨ given.isLongWhole = true := by
  cases given with
  | floatValue number =>
    cases number with
    | scalar value =>
      cases value <;> simp [isUnprintable, isNonFinite, isBareValue, isLongWhole, isBareNode]
    | _ => simp [isUnprintable, isNonFinite, isBareValue, isLongWhole]
  | intValue number => simp [isUnprintable, isNonFinite, isBareValue, isLongWhole, isBareNode]
  | bare sort serial =>
    cases sort <;> simp [isUnprintable, isNonFinite, isBareValue, isLongWhole, isBareNode]
  | _ => simp [isUnprintable, isNonFinite, isBareValue, isLongWhole]

/-- Nodes of some kind that are not too long can only be such that they cannot be written. -/
theorem isSerialization_of_fault?
    {node : Datum}
    {fault : Fault}
    (ofKind : node.isBareNode = false)
    (short : node.isLongWhole = false)
    (isFault : node.fault? = some fault) :
    fault.isSerialization = true := by
  unfold fault? at isFault
  split at isFault
  case h_1 => simp_all [isLongWhole]
  case h_2 | h_3 =>
    split at isFault
    case isTrue => cases isFault
    case isFalse =>
      obtain rfl := Option.some.inj isFault
      rfl
  case h_5 =>
    obtain rfl := Option.some.inj isFault
    rfl
  case h_7 sort serial _ notValue _ =>
    cases sort with
    | value => exact absurd rfl notValue
    | _ => cases ofKind
  case h_8 => cases isFault
  all_goals cases ofKind

/-! ## Nodes that cannot be put into text -/

section Nodes

variable
  {named : Label → Prop}
  {found : Datum}
  (unprintable : found.isUnprintable = true)
  (notNode : found.isBareNode = false)

theorem mem_nodes_leaf_iff
    {given : Datum}
    (leaf : given.nodes = [given])
    (nothingElse : InValue found given → found = given) :
    found ∈ given.nodes ↔ InValue found given := by
  rw [leaf, List.mem_singleton]
  refine ⟨?_, nothingElse⟩
  rintro rfl
  exact .self

include unprintable

theorem ne_of_printable
    {given : Datum}
    (printable : given.isUnprintable = false) :
    found ≠ given := by
  rintro rfl
  rw [unprintable] at printable
  cases printable

/-- Entries hold what their values hold. -/
theorem mem_nodes_entries_iff
    {make : Label → Datum → Datum}
    (nodes : ∀ name given, (make name given).nodes = make name given :: given.nodes)
    (printable : ∀ name given, (make name given).isUnprintable = false)
    (entries : List (Label × Datum)) :
    found ∈ (tuple (entries.map fun entry => make entry.1 entry.2)).nodes ↔
      ∃ entry ∈ entries, found ∈ entry.2.nodes := by
  simp only [nodes_tuple, List.mem_flatMap, List.mem_map, exists_exists_and_eq_and, nodes,
    List.mem_cons, ne_of_printable unprintable (printable _ _), false_or]

theorem mem_nodes_value_iff
    {given : Datum}
    (typed : Typed.Value named given) :
    found ∈ given.nodes ↔ InValue found given := by
  induction typed with
  | @list items typed inductionHypothesis =>
    rw [nodes_listValue, List.mem_cons, nodes_tuple, List.mem_flatMap,
      or_iff_right (ne_of_printable unprintable rfl)]
    constructor
    · rintro ⟨item, among, inside⟩
      exact .item among ((inductionHypothesis item among).mp inside)
    · intro inside
      cases inside with
      | self => cases unprintable
      | item among inside => exact ⟨_, among, (inductionHypothesis _ among).mpr inside⟩
  | @object fields isNamed typed inductionHypothesis =>
    rw [nodes_objectValue, List.mem_cons, or_iff_right (ne_of_printable unprintable rfl),
      Typed.objectFields, mem_nodes_entries_iff unprintable nodes_objectField fun _ _ => rfl]
    constructor
    · rintro ⟨field, among, inside⟩
      exact .field (List.mem_map_of_mem among) ((inductionHypothesis field among).mp inside)
    · intro inside
      cases inside with
      | self => cases unprintable
      | field among inside =>
        obtain ⟨field, isField, same⟩ := List.mem_map.mp among
        obtain ⟨rfl, rfl⟩ := Datum.objectField.inj same
        exact ⟨field, isField, (inductionHypothesis field isField).mpr inside⟩
  | _ =>
    refine mem_nodes_leaf_iff (by simp [nodes]) ?_
    intro inside
    cases inside
    rfl

theorem mem_nodes_arguments_iff
    {given : Datum}
    (typed : Typed.Arguments named given) :
    found ∈ given.nodes ↔ InArguments found given := by
  obtain ⟨-, typed⟩ := typed
  rw [mem_nodes_entries_iff unprintable nodes_argument fun _ _ => rfl]
  constructor
  · rintro ⟨argument, among, inside⟩
    refine .argument (List.mem_map_of_mem among) ?_
    exact (mem_nodes_value_iff unprintable (typed argument among)).mp inside
  · rintro ⟨among, inside⟩
    obtain ⟨argument, isArgument, same⟩ := List.mem_map.mp among
    obtain ⟨rfl, rfl⟩ := Datum.argument.inj same
    exact ⟨argument, isArgument,
      (mem_nodes_value_iff unprintable (typed argument isArgument)).mpr inside⟩

theorem mem_nodes_directives_iff
    {given : Datum}
    (typed : Typed.Directives named given) :
    found ∈ given.nodes ↔ InDirectives found given := by
  obtain ⟨-, typed⟩ := typed
  rw [mem_nodes_entries_iff unprintable nodes_directive fun _ _ => rfl]
  constructor
  · rintro ⟨directive, among, inside⟩
    refine .directive (List.mem_map_of_mem among) ?_
    exact (mem_nodes_arguments_iff unprintable (typed directive among)).mp inside
  · rintro ⟨among, inside⟩
    obtain ⟨directive, isDirective, same⟩ := List.mem_map.mp among
    obtain ⟨rfl, rfl⟩ := Datum.directive.inj same
    exact ⟨directive, isDirective,
      (mem_nodes_arguments_iff unprintable (typed directive isDirective)).mpr inside⟩

include notNode

theorem mem_nodes_selection_iff
    {given : Datum}
    (typed : Typed.Selection named given) :
    found ∈ given.nodes ↔ InSelection found given := by
  induction typed with
  | field isNamed aliasNamed typedArguments typedDirectives typed inductionHypothesis =>
    rw [nodes_field, List.mem_cons, or_iff_right (ne_of_printable unprintable rfl),
      List.mem_append, List.mem_append, mem_nodes_arguments_iff unprintable typedArguments,
      mem_nodes_directives_iff unprintable typedDirectives, nodes_tuple, List.mem_flatMap]
    constructor
    · rintro ((inside | inside) | ⟨selection, among, inside⟩)
      · exact .argument inside
      · exact .fieldDirective inside
      · exact .fieldSelection among ((inductionHypothesis selection among).mp inside)
    · intro inside
      cases inside with
      | argument inside => exact .inl (.inl inside)
      | fieldDirective inside => exact .inl (.inr inside)
      | fieldSelection among inside =>
        exact .inr ⟨_, among, (inductionHypothesis _ among).mpr inside⟩
  | spread isNamed typedDirectives =>
    rw [nodes_fragmentSpread, List.mem_cons, or_iff_right (ne_of_printable unprintable rfl),
      mem_nodes_directives_iff unprintable typedDirectives]
    constructor
    · exact .spreadDirective
    · rintro ⟨inside⟩
      assumption
  | inlineFragment isNamed typedDirectives typed inductionHypothesis =>
    rw [nodes_inlineFragment, List.mem_cons, or_iff_right (ne_of_printable unprintable rfl),
      List.mem_append, mem_nodes_directives_iff unprintable typedDirectives, nodes_tuple,
      List.mem_flatMap]
    constructor
    · rintro (inside | ⟨selection, among, inside⟩)
      · exact .inlineDirective inside
      · exact .inlineSelection among ((inductionHypothesis selection among).mp inside)
    · intro inside
      cases inside with
      | inlineDirective inside => exact .inl inside
      | inlineSelection among inside =>
        exact .inr ⟨_, among, (inductionHypothesis _ among).mpr inside⟩
  | bare serial =>
    refine iff_of_false ?_ nofun
    intro among
    obtain rfl := List.mem_singleton.mp among
    cases notNode

theorem not_mem_nodes_type
    {given : Datum}
    (typed : Typed.TypeRef named given) :
    found ∉ given.nodes := by
  induction typed with
  | list typed inductionHypothesis =>
    rw [nodes_listType, List.mem_cons, or_iff_right (ne_of_printable unprintable rfl)]
    exact inductionHypothesis
  | nonNull typed inductionHypothesis =>
    rw [nodes_nonNullType, List.mem_cons, or_iff_right (ne_of_printable unprintable rfl)]
    exact inductionHypothesis
  | name =>
    intro among
    obtain rfl := List.mem_singleton.mp among
    cases unprintable
  | bare serial =>
    intro among
    obtain rfl := List.mem_singleton.mp among
    cases notNode

theorem mem_declaredNodes_iff
    {given : Datum}
    (typed : Typed.Declaration named given) :
    found ∈ given.declaredNodes ↔
      ∃ name type default, given = .variable name type default ∧ default ≠ .null ∧
        InValue found default := by
  cases typed with
  | @plain name type isNamed typedType =>
    rw [nodes_variable_declared, List.mem_cons, or_iff_right (ne_of_printable unprintable rfl),
      List.mem_append, or_iff_right (not_mem_nodes_type unprintable notNode typedType)]
    refine iff_of_false ?_ ?_
    · intro among
      obtain rfl := List.mem_singleton.mp among
      cases unprintable
    · rintro ⟨_, _, _, same, notNull, -⟩
      exact notNull (Datum.variable.inj same).2.2.symm
  | @withDefault name type default isNamed typedType typedDefault constant =>
    rw [nodes_variable_declared, List.mem_cons, or_iff_right (ne_of_printable unprintable rfl),
      List.mem_append, or_iff_right (not_mem_nodes_type unprintable notNode typedType),
      mem_nodes_value_iff unprintable typedDefault]
    constructor
    · refine fun inside => ⟨name, type, default, rfl, ?_, inside⟩
      rintro rfl
      cases typedDefault
    · rintro ⟨_, _, _, same, -, inside⟩
      rwa [(Datum.variable.inj same).2.2]

theorem mem_nodes_definition_iff
    {given : Datum}
    (typed : Typed.Definition named given) :
    found ∈ given.nodes ↔ InDefinition found given := by
  have ofSelections
      {selections : List Datum}
      (typed : ∀ selection ∈ selections, Typed.Selection named selection) :
      found ∈ (tuple selections).nodes ↔
        ∃ selection ∈ selections, InSelection found selection := by
    rw [nodes_tuple, List.mem_flatMap]
    refine exists_congr fun selection => and_congr_right fun among => ?_
    exact mem_nodes_selection_iff unprintable notNode (typed selection among)
  cases typed with
  | operation kind isNamed typedDeclared typedDirectives typedSelections =>
    rw [nodes_operation, List.mem_cons, or_iff_right (ne_of_printable unprintable rfl),
      List.mem_append, List.mem_append, mem_nodes_directives_iff unprintable typedDirectives,
      ofSelections typedSelections, declaredNodes_tuple, List.mem_flatMap]
    constructor
    · rintro ((⟨declared, among, inside⟩ | inside) | ⟨selection, among, inside⟩)
      · obtain ⟨name, type, default, rfl, notNull, inside⟩ :=
          (mem_declaredNodes_iff unprintable notNode (typedDeclared declared among)).mp inside
        exact .default among notNull inside
      · exact .operationDirective inside
      · exact .operationSelection among inside
    · intro inside
      cases inside with
      | default among notNull inside =>
        refine .inl (.inl ⟨_, among, ?_⟩)
        exact (mem_declaredNodes_iff unprintable notNode (typedDeclared _ among)).mpr
          ⟨_, _, _, rfl, notNull, inside⟩
      | operationDirective inside => exact .inl (.inr inside)
      | operationSelection among inside => exact .inr ⟨_, among, inside⟩
  | fragment isNamed notOn conditionNamed typedDirectives typedSelections =>
    rw [nodes_fragmentDefinition, List.mem_cons, or_iff_right (ne_of_printable unprintable rfl),
      List.mem_append, mem_nodes_directives_iff unprintable typedDirectives,
      ofSelections typedSelections]
    constructor
    · rintro (inside | ⟨selection, among, inside⟩)
      · exact .fragmentDirective inside
      · exact .fragmentSelection among inside
    · intro inside
      cases inside with
      | fragmentDirective inside => exact .inl inside
      | fragmentSelection among inside => exact .inr ⟨_, among, inside⟩

/-- A node that cannot be put into text has a place in the text exactly if it is printed. -/
theorem mem_nodes_iff_printed
    {document : Datum}
    (typed : Typed.Document named document) :
    found ∈ document.nodes ↔ Printed found document := by
  obtain ⟨typed⟩ := typed
  rw [nodes_document, List.mem_cons, or_iff_right (ne_of_printable unprintable rfl), nodes_tuple,
    List.mem_flatMap]
  constructor
  · rintro ⟨definition, among, inside⟩
    refine .definition among ?_
    exact (mem_nodes_definition_iff unprintable notNode (typed definition among)).mp inside
  · rintro ⟨among, inside⟩
    exact ⟨_, among, (mem_nodes_definition_iff unprintable notNode (typed _ among)).mpr inside⟩

end Nodes

/-- A document cannot be put into text exactly if something in it that is printed cannot. -/
theorem not_printable_iff_printed
    {named : Label → Prop}
    {document : Datum}
    (typed : Typed.Document named document)
    (ofKinds : ∀ node ∈ document.nodes, node.isBareNode = false) :
    ¬document.Printable ↔ ∃ found, Printed found document ∧
      (found.isNonFinite = true ∨ found.isBareValue = true ∨ found.isLongWhole = true) := by
  simp only [Printable, not_forall, Bool.not_eq_false, exists_prop]
  refine exists_congr fun found => ?_
  rw [← isUnprintable_iff]
  constructor
  · rintro ⟨among, unprintable⟩
    have notNode := ofKinds found among
    exact ⟨(mem_nodes_iff_printed unprintable notNode typed).mp among, unprintable, notNode⟩
  · rintro ⟨isPrinted, unprintable, notNode⟩
    exact ⟨(mem_nodes_iff_printed unprintable notNode typed).mpr isPrinted, unprintable⟩

end Datum

/-! ## Documents -/

namespace Datum

/-- Let every part of a document be what it is declared to be, its definitions, selections
and types of some kind, and its whole numbers of no more digits than are written.  Then putting
the document into text fails exactly if an infinite or undefined number, or a value of no
particular kind, is printed in it, and it fails for nothing but that something cannot be put
into text.  Otherwise there is a text. -/
theorem build_printed
    {named : Label → Prop}
    {document : Datum}
    (typed : Typed.Document named document)
    (ofKinds : ∀ node ∈ document.nodes, node.isBareNode = false)
    (short : ∀ node ∈ document.nodes, node.isLongWhole = false)
    (layout : Layout) :
    ((∃ fault, document.build layout = .error fault ∧ fault.isSerialization = true) ↔
      ∃ found, Printed found document ∧
        (found.isNonFinite = true ∨ found.isBareValue = true)) ∧
    ((∃ text, document.build layout = .ok text) ↔
      ¬∃ found, Printed found document ∧
        (found.isNonFinite = true ∨ found.isBareValue = true)) := by
  have names : Written.NamesFit named (fun _ => True) False := ⟨fun _ _ => trivial,
    fun _ _ => trivial, nofun⟩
  have builds : (∃ text, document.build layout = .ok text) ↔ document.Printable := by
    rw [build, exists_map_iff]
    exact (Written.yields_document names typed).exists_iff
  have serializes : Blames (document.build layout) (·.isSerialization = true) := by
    intro fault isFault
    obtain ⟨node, among, isFault⟩ := (typed.stops.map layout.document).exists_of_error isFault
    exact isSerialization_of_fault? (ofKinds node among) (short node among) isFault
  have fails : ¬document.Printable ↔ ∃ found, Printed found document ∧
      (found.isNonFinite = true ∨ found.isBareValue = true) := by
    rw [not_printable_iff_printed typed ofKinds]
    refine exists_congr fun found => and_congr_right fun isPrinted => ?_
    rw [← or_assoc, or_iff_left]
    intro isLong
    obtain ⟨unprintable, notNode⟩ := isUnprintable_iff.mpr (.inr (.inr isLong))
    rw [short found ((mem_nodes_iff_printed unprintable notNode typed).mpr isPrinted)] at isLong
    cases isLong
  rw [← fails, not_not, ← builds]
  refine ⟨?_, Iff.rfl⟩
  cases isOutcome : document.build layout with
  | ok text => simp
  | error fault => simpa using serializes fault isOutcome

/-! ## Numbers and values that cannot be printed -/

/-- A variable whose default value is a list with an infinite number. -/
def endless : Datum :=
  .variable (.plain "v") (.namedType (.plain "T"))
    (.listValue (.tuple [.floatValue (.decimal (.infinity true))]))

theorem typed_endless : Typed.Declaration Label.IsWord endless :=
  .withDefault ⟨rfl, by decide⟩ (.name ⟨rfl, by decide⟩)
    (.list (List.forall_mem_singleton.mpr (.decimal _))) rfl

/-- An infinite number in a default value is printed where the variable is declared, and not
where it is mentioned. -/
theorem build_printed_endless :
    (∃ fault, (asking endless .nullValue).build .standard = .error fault ∧
      fault.isSerialization = true) ∧
    ∃ text, (asking wanted endless).build .standard = .ok text := by
  have plain (text : String) : Text.Name.IsName text → (Label.plain text).IsWord :=
    Label.isWord_plain
  have typed := typed_asking plain typed_endless .null
  have isWord : (Label.plain "v").IsWord := ⟨rfl, by decide⟩
  have typedToo := typed_asking plain (typed_wanted plain) (.reference (.namedType (.plain "T"))
    (.listValue (.tuple [.floatValue (.decimal (.infinity true))])) isWord)
  constructor
  · refine (build_printed typed (by decide) (by decide) .standard).1.mpr
      ⟨.floatValue (.decimal (.infinity true)), ?_, .inl rfl⟩
    exact .definition List.mem_cons_self
      (.default List.mem_cons_self nofun (.item List.mem_cons_self .self))
  · refine (build_printed typedToo (by decide) (by decide) .standard).2.mpr ?_
    rintro ⟨found, isPrinted, unprintable⟩
    refine (not_printable_iff_printed typedToo (by decide)).mpr
      ⟨found, isPrinted, unprintable.imp_right .inl⟩ ?_
    exact (by decide : ∀ node ∈ (asking wanted endless).nodes, node.isUnprintable = false)

/-- A value of no particular kind cannot be put into text, although there is no number. -/
theorem exists_serialization_of_finite :
    Typed.Document Label.IsWord (asking wanted (.bare .value 0)) ∧
      (∀ node ∈ (asking wanted (.bare .value 0)).nodes, node.isBareNode = false) ∧
      (¬∃ found, Printed found (asking wanted (.bare .value 0)) ∧ found.isNonFinite = true) ∧
      ∀ layout, (asking wanted (.bare .value 0)).build layout =
        .error (.misplaced .value "Value") := by
  have plain (text : String) : Text.Name.IsName text → (Label.plain text).IsWord :=
    Label.isWord_plain
  have typed := typed_asking plain (typed_wanted plain) (.bare 0)
  refine ⟨typed, by decide, ?_, fun _ => rfl⟩
  rintro ⟨found, isPrinted, nonFinite⟩
  obtain ⟨unprintable, notNode⟩ := isUnprintable_iff.mpr (.inl nonFinite)
  have among := (mem_nodes_iff_printed unprintable notNode typed).mpr isPrinted
  have noNumber : ∀ node ∈ (asking wanted (.bare .value 0)).nodes, node.isNonFinite = false := by
    decide
  rw [noNumber found among] at nonFinite
  cases nonFinite

end Datum
end GraphQL
