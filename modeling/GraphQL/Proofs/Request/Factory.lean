import GraphQL.Proofs.Data.Within
import GraphQL.Proofs.Request.Apart
import GraphQL.Proofs.Request.Literal
import GraphQL.Request.Build

/-!
# What factories make

A factory sorts what it is given and hands it to the checks of a node.  A node from a
factory therefore has tuples for collections and literals for values, and in most of its
tuples only items of the kind that belongs there.  The arguments of a directive, the
directives of a reference to a fragment and the fields of an object are not sorted: of
those it is only known that they have names, if names are compared at all.
-/

namespace GraphQL

open Outcome

namespace Datum

/-! ## The shape of nodes -/

/-- The data is a tuple of items of some kind. -/
def IsTuple (kind : Datum → Prop) (given : Datum) : Prop :=
  ∃ items, given = .tuple items ∧ ∀ item ∈ items, kind item

/-- The data has a name. -/
def HasName (item : Datum) : Prop :=
  (item.part? "name").isSome = true

/-- The parts of the node are what factories put there. -/
def Shaped : Datum → Prop
  | listType of | nonNullType of => of.isTypeRef = true
  | booleanValue given => ∃ value, given = .bool value
  | intValue given => ∃ value, given = .int value
  | floatValue given => (∃ value, given = .float value) ∨ ∃ value, given = .decimal value
  | stringValue given => ∃ value, given = .text value
  | listValue given => IsTuple (·.isValue = true) given
  | objectField _ given | argument _ given => given.isValue = true
  | objectValue given | directive _ given => IsTuple HasName given
  | .variable _ type default => type.isTypeRef = true ∧ (default = .null ∨ default.isValue = true)
  | field _ _ arguments directives selections =>
    IsTuple (·.isArgument = true) arguments ∧ IsTuple (·.isDirective = true) directives ∧
      IsTuple (·.isSelection = true) selections
  | fragmentSpread _ directives => IsTuple (fun _ => True) directives
  | inlineFragment _ directives selections | fragmentDefinition _ _ directives selections =>
    IsTuple (·.isDirective = true) directives ∧ IsTuple (·.isSelection = true) selections
  | operation _ _ declared directives selections =>
    IsTuple (·.isVariable = true) declared ∧ IsTuple (·.isDirective = true) directives ∧
      IsTuple (·.isSelection = true) selections
  | document definitions =>
    IsTuple (fun item => item.isOperation = true ∨ item.isFragment = true) definitions
  | _ => True

/-- The node is as factories make it. -/
def Fresh (node : Datum) : Prop :=
  node.Shaped ∧ node.KeepsApart

end Datum

open Datum

/-! ## Checked nodes -/

namespace Node

variable {made : Datum}

theorem exists_of_namedType
    {name : Datum}
    (isMade : namedType name = .ok made) :
    ∃ label, made = .namedType label := by
  obtain ⟨label, -, rfl⟩ := map_eq_ok_iff.mp isMade
  exact ⟨label, rfl⟩

theorem exists_of_enumValue
    {symbol : Datum}
    (isMade : enumValue symbol = .ok made) :
    ∃ label, made = .enumValue label := by
  obtain ⟨label, -, isMade⟩ := bind_eq_ok_iff.mp isMade
  split at isMade
  case isTrue => cases isMade
  case isFalse => exact ⟨label, (Except.ok.inj isMade).symm⟩

theorem exists_of_objectField
    {name value : Datum}
    (isMade : objectField name value = .ok made) :
    ∃ label, made = .objectField label value := by
  obtain ⟨label, -, rfl⟩ := map_eq_ok_iff.mp isMade
  exact ⟨label, rfl⟩

theorem exists_of_objectValue
    {fields : Datum}
    (isMade : objectValue fields = .ok made) :
    checkUnique "input field" "input object" fields = .ok () ∧ made = .objectValue fields := by
  obtain ⟨_, unique, isMade⟩ := bind_eq_ok_iff.mp isMade
  exact ⟨unique, (Except.ok.inj isMade).symm⟩

theorem exists_of_declaration
    {name type default : Datum}
    (isMade : declaration name type default = .ok made) :
    ∃ label, made = .variable label type default := by
  obtain ⟨label, -, isMade⟩ := bind_eq_ok_iff.mp isMade
  split at isMade
  case h_1 => exact ⟨label, (Except.ok.inj isMade).symm⟩
  case h_2 =>
    obtain ⟨mentions, -, isMade⟩ := bind_eq_ok_iff.mp isMade
    cases mentions with
    | true => cases isMade
    | false => exact ⟨label, (Except.ok.inj isMade).symm⟩

theorem exists_of_argument
    {name value : Datum}
    (isMade : argument name value = .ok made) :
    ∃ label, made = .argument label value := by
  obtain ⟨label, -, rfl⟩ := map_eq_ok_iff.mp isMade
  exact ⟨label, rfl⟩

theorem exists_of_directive
    {name arguments : Datum}
    (isMade : directive name arguments = .ok made) :
    ∃ label owner, checkUnique "argument" owner arguments = .ok () ∧
      made = .directive label arguments := by
  obtain ⟨label, -, isMade⟩ := bind_eq_ok_iff.mp isMade
  obtain ⟨_, unique, isMade⟩ := bind_eq_ok_iff.mp isMade
  exact ⟨label, _, unique, (Except.ok.inj isMade).symm⟩

theorem exists_of_field
    {name label arguments directives selections : Datum}
    (isMade : field name label arguments directives selections = .ok made) :
    ∃ passed alias? owner, checkUnique "argument" owner arguments = .ok () ∧
      made = .field passed alias? arguments directives selections := by
  obtain ⟨passed, -, isMade⟩ := bind_eq_ok_iff.mp isMade
  obtain ⟨alias?, -, isMade⟩ := bind_eq_ok_iff.mp isMade
  obtain ⟨_, unique, isMade⟩ := bind_eq_ok_iff.mp isMade
  exact ⟨passed, alias?, _, unique, (Except.ok.inj isMade).symm⟩

theorem exists_of_fragmentSpread
    {name directives : Datum}
    (isMade : fragmentSpread name directives = .ok made) :
    ∃ label, made = .fragmentSpread label directives := by
  obtain ⟨label, -, rfl⟩ := map_eq_ok_iff.mp isMade
  exact ⟨label, rfl⟩

theorem exists_of_inlineFragment
    {condition directives selections : Datum}
    (isMade : inlineFragment condition directives selections = .ok made) :
    ∃ condition?, made = .inlineFragment condition? directives selections := by
  obtain ⟨condition?, -, rfl⟩ := map_eq_ok_iff.mp isMade
  exact ⟨condition?, rfl⟩

/-- What an operation is called: its name, or the value of its kind. -/
def title (kind : Datum) : Option Label → Except Fault String
  | some name => .ok name.shown
  | none => do (← kind.part "value").shown

theorem operation_eq (kind name declared directives selections : Datum) :
    operation kind name declared directives selections = (do
      let name? ← checkName? "operation name" name
      let called ← title kind name?
      checkUnique "variable" ("operation '" ++ called ++ "'") declared
      return .operation kind name? declared directives selections) := by
  unfold operation title
  congr
  funext name?
  cases name? with
  | none => simp only [bind_assoc]
  | some name => rfl

theorem exists_of_operation
    {kind name declared directives selections : Datum}
    (isMade : operation kind name declared directives selections = .ok made) :
    ∃ name? owner, checkUnique "variable" owner declared = .ok () ∧
      made = .operation kind name? declared directives selections := by
  rw [operation_eq] at isMade
  obtain ⟨name?, -, isMade⟩ := bind_eq_ok_iff.mp isMade
  obtain ⟨called, -, isMade⟩ := bind_eq_ok_iff.mp isMade
  obtain ⟨_, unique, isMade⟩ := bind_eq_ok_iff.mp isMade
  exact ⟨name?, _, unique, (Except.ok.inj isMade).symm⟩

theorem exists_of_fragmentDefinition
    {name condition directives selections : Datum}
    (isMade : fragmentDefinition name condition directives selections = .ok made) :
    ∃ label passed, made = .fragmentDefinition label passed directives selections := by
  obtain ⟨label, -, isMade⟩ := bind_eq_ok_iff.mp isMade
  split at isMade
  case isTrue => cases isMade
  case isFalse =>
    obtain ⟨passed, -, isMade⟩ := bind_eq_ok_iff.mp isMade
    exact ⟨label, passed, (Except.ok.inj isMade).symm⟩

theorem exists_of_document
    {definitions : Datum}
    (isMade : document definitions = .ok made) :
    ∃ items, definitions.elements? = some items ∧ checkDefinitions [] [] items = .ok () ∧
      made = .document definitions := by
  obtain ⟨items, found, isMade⟩ := bind_eq_ok_iff.mp isMade
  obtain ⟨_, distinct, isMade⟩ := bind_eq_ok_iff.mp isMade
  exact ⟨items, elements_eq_ok_iff.mp found, distinct, (Except.ok.inj isMade).symm⟩

/-- The type that data stands for is that data, or a reference by name. -/
theorem exists_of_asType
    {given type : Datum}
    (isType : asType given = .ok type) :
    type.isTypeRef = true ∧ (type = given ∨ ∃ label, type = .namedType label) := by
  unfold asType at isType
  split at isType
  case h_1 =>
    obtain ⟨label, rfl⟩ := exists_of_namedType isType
    exact ⟨rfl, .inr ⟨label, rfl⟩⟩
  case h_2 =>
    split at isType
    case isTrue isTypeRef =>
      obtain rfl := Except.ok.inj isType
      exact ⟨isTypeRef, .inl rfl⟩
    case isFalse =>
      split at isType
      case isTrue =>
        obtain ⟨label, rfl⟩ := exists_of_namedType isType
        exact ⟨rfl, .inr ⟨label, rfl⟩⟩
      case isFalse => cases isType

end Node

/-! ## Values -/

namespace Datum

/-- Something is asked of nodes only, and nodes as factories make them have it. -/
structure Kept (good : Datum → Prop) : Prop where
  /-- Nothing is asked of other data. -/
  elsewhere : AsksNodes good
  /-- Nodes from factories are good. -/
  fresh : ∀ node : Datum, node.Fresh → good node

variable {good : Datum → Prop}

/-- A node is good throughout if it is as factories make it and its parts are good. -/
theorem Kept.node
    (kept : Kept good)
    {node : Datum}
    (shaped : node.Shaped)
    (apart : node.KeepsApart)
    (ofHeld : ∀ direct ∈ node.held, Throughout good direct) :
    Throughout good node :=
  throughout_iff.mpr ⟨kept.fresh node ⟨shaped, apart⟩, ofHeld⟩

/-- The parts of a node are good if its name and its only other part are. -/
theorem Kept.named
    (kept : Kept good)
    {part : Datum}
    (label : Label)
    (ofPart : Throughout good part) :
    ∀ direct ∈ [ofLabel label, part], Throughout good direct :=
  List.forall_mem_cons.mpr
    ⟨throughout_ofLabel kept.elsewhere label, List.forall_mem_singleton.mpr ofPart⟩

theorem Kept.toLiteral?
    (kept : Kept good)
    {scalar : Scalar}
    {value : Datum}
    (isLiteral : scalar.toLiteral? = some value) :
    value.isValue = true ∧ Throughout good value := by
  have ofScalar (held : Scalar) : ∀ direct ∈ [Datum.scalar held], Throughout good direct :=
    List.forall_mem_singleton.mpr (throughout_of_nothing_held kept.elsewhere rfl rfl)
  cases scalar with
  | bool value | int value | text value | uuid value | date value | time value | moment value =>
    obtain rfl := Option.some.inj isLiteral
    exact ⟨rfl, kept.node ⟨_, rfl⟩ trivial (ofScalar _)⟩
  | float value =>
    obtain rfl := Option.some.inj isLiteral
    exact ⟨rfl, kept.node (.inl ⟨_, rfl⟩) trivial (ofScalar _)⟩
  | decimal value =>
    obtain rfl := Option.some.inj isLiteral
    exact ⟨rfl, kept.node (.inr ⟨_, rfl⟩) trivial (ofScalar _)⟩
  | complex | bytes => cases isLiteral

mutual

/-- The value that good data stands for is good. -/
theorem Kept.convert
    (kept : Kept good)
    {given value : Datum}
    (throughout : Throughout good given)
    (converted : given.convert = .ok value) :
    value.isValue = true ∧ Throughout good value := by
  match given with
  | .null =>
    obtain rfl := Except.ok.inj converted
    exact ⟨rfl, throughout_of_nothing_held kept.elsewhere rfl rfl⟩
  | .scalar plain =>
    rw [Datum.convert] at converted
    split at converted
    case h_1 isLiteral =>
      obtain rfl := Except.ok.inj converted
      exact kept.toLiteral? isLiteral
    case h_2 => cases converted
  | .member _ name _ _ =>
    obtain ⟨label, rfl⟩ := Node.exists_of_enumValue converted
    refine ⟨rfl, kept.node trivial trivial (List.forall_mem_singleton.mpr ?_)⟩
    exact throughout_ofLabel kept.elsewhere label
  | .list items | .tuple items =>
    obtain ⟨values, convertedItems, made⟩ := bind_eq_ok_iff.mp converted
    obtain rfl := Except.ok.inj made
    have ofValues := kept.convertItems (throughout_iff.mp throughout).2 convertedItems
    have areValues : IsTuple (·.isValue = true) (.tuple values) :=
      ⟨values, rfl, fun value among => (ofValues value among).1⟩
    refine ⟨rfl, kept.node areValues trivial (List.forall_mem_singleton.mpr ?_)⟩
    exact (throughout_tuple_iff kept.elsewhere).mpr fun value among => (ofValues value among).2
  | .dict entries =>
    obtain ⟨fields, convertedEntries, checked⟩ := bind_eq_ok_iff.mp converted
    obtain ⟨unique, rfl⟩ := Node.exists_of_objectValue checked
    have ofEntries := (throughout_dict_iff kept.elsewhere).mp throughout
    have ofFields := kept.convertEntries ofEntries convertedEntries
    have haveNames : IsTuple HasName (.tuple fields) :=
      ⟨fields, rfl, fun field among => (ofFields field among).1⟩
    refine ⟨rfl, kept.node haveNames (Node.nodup_of_checkUnique unique)
      (List.forall_mem_singleton.mpr ?_)⟩
    exact (throughout_tuple_iff kept.elsewhere).mpr fun field among => (ofFields field among).2
  | .nullValue | .booleanValue _ | .intValue _ | .floatValue _ | .stringValue _ | .enumValue _
  | .listValue _ | .objectValue _ | .variable _ _ _ | .bare .value _ =>
    obtain rfl := Except.ok.inj converted
    exact ⟨rfl, throughout⟩
  | .unset | .bare .foreign _ | .bare .typeRef _ | .bare .selection _ | .bare .definition _
  | .set _ | .model _ _ | .namedType _ | .listType _ | .nonNullType _ | .objectField _ _
  | .argument _ _ | .directive _ _ | .field _ _ _ _ _ | .fragmentSpread _ _
  | .inlineFragment _ _ _ | .operation _ _ _ _ _ | .fragmentDefinition _ _ _ _
  | .printOptions _ _ | .document _ =>
    cases converted

theorem Kept.convertItems
    (kept : Kept good)
    {items values : List Datum}
    (throughout : ∀ item ∈ items, Throughout good item)
    (converted : convertItems items = .ok values) :
    ∀ value ∈ values, value.isValue = true ∧ Throughout good value := by
  match items with
  | [] =>
    obtain rfl := Except.ok.inj converted
    exact List.forall_mem_nil _
  | item :: items =>
    rw [List.forall_mem_cons] at throughout
    obtain ⟨value, convertedItem, converted⟩ := bind_eq_ok_iff.mp converted
    obtain ⟨values, convertedItems, made⟩ := bind_eq_ok_iff.mp converted
    obtain rfl := Except.ok.inj made
    exact List.forall_mem_cons.mpr
      ⟨kept.convert throughout.1 convertedItem, kept.convertItems throughout.2 convertedItems⟩

theorem Kept.convertEntries
    (kept : Kept good)
    {entries : List (Datum × Datum)}
    {fields : List Datum}
    (throughout : ∀ entry ∈ entries, Throughout good entry.1 ∧ Throughout good entry.2)
    (converted : convertEntries entries = .ok fields) :
    ∀ field ∈ fields, field.HasName ∧ Throughout good field := by
  match entries with
  | [] =>
    obtain rfl := Except.ok.inj converted
    exact List.forall_mem_nil _
  | (key, item) :: entries =>
    rw [List.forall_mem_cons] at throughout
    obtain ⟨value, convertedItem, converted⟩ := bind_eq_ok_iff.mp converted
    obtain ⟨field, checked, converted⟩ := bind_eq_ok_iff.mp converted
    obtain ⟨fields, convertedEntries, made⟩ := bind_eq_ok_iff.mp converted
    obtain rfl := Except.ok.inj made
    obtain ⟨label, rfl⟩ := Node.exists_of_objectField checked
    obtain ⟨isValue, ofValue⟩ := kept.convert throughout.1.2 convertedItem
    have ofField : Throughout good (.objectField label value) :=
      kept.node isValue trivial (kept.named label ofValue)
    exact List.forall_mem_cons.mpr
      ⟨⟨rfl, ofField⟩, kept.convertEntries throughout.2 convertedEntries⟩

end

/-- The value that good data stands for is good, also if there are records in the data. -/
theorem Kept.toValue
    (kept : Kept good)
    {given value : Datum}
    (throughout : Throughout good given)
    (converted : given.toValue = .ok value) :
    value.isValue = true ∧ Throughout good value :=
  kept.convert (throughout_unfold kept.elsewhere throughout) converted

end Datum

end GraphQL
