import GraphQL.Proofs.Request.Factory
import GraphQL.Proofs.Request.Typed

/-!
# Variables that are mentioned

A value is a tree of literals, in which variables may be mentioned at any depth.  Whether
one is mentioned is told exactly, and so a variable can be declared with exactly those trees
for its default value that mention none.  Data that is converted for a default value becomes
such a tree.
-/

namespace GraphQL

open Outcome

/-! ## Trees -/

namespace Datum

/-- The data is put together from the eight kinds of literal and from variables, whatever
is in those that hold no values. -/
inductive ValueTree : Datum → Prop
  | null : ValueTree .nullValue
  | boolean (given : Datum) : ValueTree (.booleanValue given)
  | int (given : Datum) : ValueTree (.intValue given)
  | float (given : Datum) : ValueTree (.floatValue given)
  | string (given : Datum) : ValueTree (.stringValue given)
  | enum (symbol : Label) : ValueTree (.enumValue symbol)
  | reference (name : Label) (type default : Datum) : ValueTree (.variable name type default)
  | list {items : List Datum} :
      (∀ item ∈ items, ValueTree item) →
      ValueTree (.listValue (.tuple items))
  | object {fields : List (Label × Datum)} :
      (∀ field ∈ fields, ValueTree field.2) →
      ValueTree (.objectValue (Typed.objectFields fields))

/-- A variable occurs in the value. -/
inductive Mentions : Datum → Prop
  | reference (name : Label) (type default : Datum) : Mentions (.variable name type default)
  | item {items : List Datum} {item : Datum} :
      item ∈ items →
      Mentions item →
      Mentions (.listValue (.tuple items))
  | field {fields : List Datum} {name : Label} {value : Datum} :
      .objectField name value ∈ fields →
      Mentions value →
      Mentions (.objectValue (.tuple fields))

/-- The values in the data are put together from literals and variables. -/
def HoldsTrees (given : Datum) : Prop :=
  Throughout (fun part => part.isValue = true → part.ValueTree) given

theorem valueTree_toLiteral?
    {scalar : Scalar}
    {value : Datum}
    (isLiteral : scalar.toLiteral? = some value) :
    value.ValueTree := by
  cases scalar with
  | bool => exact Option.some.inj isLiteral ▸ .boolean _
  | int => exact Option.some.inj isLiteral ▸ .int _
  | float | decimal => exact Option.some.inj isLiteral ▸ .float _
  | text | uuid | date | time | moment => exact Option.some.inj isLiteral ▸ .string _
  | complex | bytes => cases isLiteral

mutual

/-- The value that data stands for is put together from literals and variables if the
values in the data are. -/
theorem valueTree_of_convert
    {given value : Datum}
    (trees : given.HoldsTrees)
    (converted : given.convert = .ok value) :
    value.ValueTree := by
  match given with
  | .null =>
    obtain rfl := Except.ok.inj converted
    exact .null
  | .scalar plain =>
    rw [convert] at converted
    split at converted
    case h_1 isLiteral =>
      obtain rfl := Except.ok.inj converted
      exact valueTree_toLiteral? isLiteral
    case h_2 => cases converted
  | .member _ name _ _ =>
    obtain ⟨label, rfl⟩ := Node.exists_of_enumValue converted
    exact .enum label
  | .list items | .tuple items =>
    obtain ⟨values, convertedItems, made⟩ := bind_eq_ok_iff.mp converted
    obtain rfl := Except.ok.inj made
    exact .list (valueTree_of_convertItems (throughout_iff.mp trees).2 convertedItems)
  | .dict entries =>
    obtain ⟨fields, convertedEntries, checked⟩ := bind_eq_ok_iff.mp converted
    obtain ⟨-, rfl⟩ := Node.exists_of_objectValue checked
    have treesOfEntries : ∀ entry ∈ entries, entry.2.HoldsTrees := fun entry present =>
      trees.of_held (List.mem_append_right _ (List.mem_map_of_mem present))
    obtain ⟨named, rfl, areTrees⟩ := exists_of_convertEntries treesOfEntries convertedEntries
    exact .object areTrees
  | .nullValue | .booleanValue _ | .intValue _ | .floatValue _ | .stringValue _ | .enumValue _
  | .listValue _ | .objectValue _ | .variable _ _ _ | .bare .value _ =>
    obtain rfl := Except.ok.inj converted
    exact trees _ .self rfl
  | .unset | .bare .foreign _ | .bare .typeRef _ | .bare .selection _ | .bare .definition _
  | .set _ | .model _ _ | .namedType _ | .listType _ | .nonNullType _ | .objectField _ _
  | .argument _ _ | .directive _ _ | .field _ _ _ _ _ | .fragmentSpread _ _
  | .inlineFragment _ _ _ | .operation _ _ _ _ _ | .fragmentDefinition _ _ _ _
  | .printOptions _ _ | .document _ =>
    cases converted

theorem valueTree_of_convertItems
    {items values : List Datum}
    (trees : ∀ item ∈ items, item.HoldsTrees)
    (converted : convertItems items = .ok values) :
    ∀ value ∈ values, value.ValueTree := by
  match items with
  | [] =>
    obtain rfl := Except.ok.inj converted
    exact List.forall_mem_nil _
  | item :: items =>
    rw [List.forall_mem_cons] at trees
    obtain ⟨value, convertedItem, converted⟩ := bind_eq_ok_iff.mp converted
    obtain ⟨values, convertedItems, made⟩ := bind_eq_ok_iff.mp converted
    obtain rfl := Except.ok.inj made
    exact List.forall_mem_cons.mpr
      ⟨valueTree_of_convert trees.1 convertedItem, valueTree_of_convertItems trees.2 convertedItems⟩

theorem exists_of_convertEntries
    {entries : List (Datum × Datum)}
    {fields : List Datum}
    (trees : ∀ entry ∈ entries, entry.2.HoldsTrees)
    (converted : convertEntries entries = .ok fields) :
    ∃ named : List (Label × Datum),
      fields = named.map (fun field => .objectField field.1 field.2) ∧
        ∀ field ∈ named, field.2.ValueTree := by
  match entries with
  | [] =>
    obtain rfl := Except.ok.inj converted
    exact ⟨[], rfl, List.forall_mem_nil _⟩
  | (key, item) :: entries =>
    rw [List.forall_mem_cons] at trees
    obtain ⟨value, convertedItem, converted⟩ := bind_eq_ok_iff.mp converted
    obtain ⟨field, checked, converted⟩ := bind_eq_ok_iff.mp converted
    obtain ⟨fields, convertedEntries, made⟩ := bind_eq_ok_iff.mp converted
    obtain rfl := Except.ok.inj made
    obtain ⟨label, rfl⟩ := Node.exists_of_objectField checked
    obtain ⟨named, rfl, areTrees⟩ := exists_of_convertEntries trees.2 convertedEntries
    exact ⟨(label, value) :: named, rfl,
      List.forall_mem_cons.mpr ⟨valueTree_of_convert trees.1 convertedItem, areTrees⟩⟩

end

end Datum

namespace Node

/-- The fields of an object mention what their values mention. -/
theorem anyField_eq_anyItem (fields : List (Label × Datum)) :
    anyField (fields.map fun field => .objectField field.1 field.2) =
      anyItem (fields.map Prod.snd) := by
  induction fields with
  | nil => rfl
  | cons field fields inductionHypothesis =>
    rw [List.map_cons, List.map_cons, anyField, anyItem, inductionHypothesis]
    rfl

/-- If it is known of each item whether it mentions a variable, it is known whether any of
them does. -/
theorem exists_anyItem
    {items : List Datum}
    (each : ∀ item ∈ items, ∃ found, containsVariable item = .ok found ∧
      (found = true ↔ item.Mentions)) :
    ∃ found, anyItem items = .ok found ∧ (found = true ↔ ∃ item ∈ items, item.Mentions) := by
  induction items with
  | nil => exact ⟨false, rfl, by simp⟩
  | cons item items inductionHypothesis =>
    obtain ⟨⟨found, contains, iffMentions⟩, eachOther⟩ := List.forall_mem_cons.mp each
    cases found with
    | true => exact ⟨true, by rw [anyItem, contains], by simp [iffMentions.mp rfl]⟩
    | false =>
      obtain ⟨later, containsLater, iffLater⟩ := inductionHypothesis eachOther
      have notFirst : ¬item.Mentions := fun mentions => absurd (iffMentions.mpr mentions) nofun
      exact ⟨later, by rw [anyItem, contains, containsLater], by simp [iffLater, notFirst]⟩

/-- Whether a value mentions a variable is told exactly. -/
theorem exists_containsVariable
    {value : Datum}
    (tree : value.ValueTree) :
    ∃ found, containsVariable value = .ok found ∧ (found = true ↔ value.Mentions) := by
  have literal {value : Datum} (contains : containsVariable value = .ok false)
      (mentionsNone : ¬value.Mentions) :
      ∃ found, containsVariable value = .ok found ∧ (found = true ↔ value.Mentions) :=
    ⟨false, contains, iff_of_false nofun mentionsNone⟩
  induction tree with
  | null | boolean | int | float | string | enum => exact literal rfl nofun
  | reference name type default => exact ⟨true, rfl, iff_of_true rfl (.reference name type default)⟩
  | @list items _ inductionHypothesis =>
    obtain ⟨found, contains, iffItem⟩ := exists_anyItem inductionHypothesis
    refine ⟨found, contains, iffItem.trans ⟨?_, ?_⟩⟩
    · rintro ⟨item, present, mentions⟩
      exact .item present mentions
    · intro mentions
      cases mentions with
      | item present mentions => exact ⟨_, present, mentions⟩
  | @object fields _ inductionHypothesis =>
    obtain ⟨found, contains, iffField⟩ :=
      exists_anyItem (List.forall_mem_map.mpr inductionHypothesis)
    refine ⟨found, (anyField_eq_anyItem fields).trans contains, iffField.trans ⟨?_, ?_⟩⟩
    · rintro ⟨_, present, mentions⟩
      obtain ⟨field, isField, rfl⟩ := List.mem_map.mp present
      exact .field (Typed.mem_objectFields_iff.mpr isField) mentions
    · intro mentions
      cases mentions with
      | field present mentions =>
        have isField := Typed.mem_objectFields_iff.mp present
        exact ⟨_, List.mem_map_of_mem isField, mentions⟩

/-- A variable with a default value is refused if the default mentions a variable. -/
theorem declaration_eq
    {name type default : Datum}
    {label : Label}
    {found : Bool}
    (checked : checkName "variable name" name = .ok label)
    (isGiven : default ≠ .null)
    (contains : containsVariable default = .ok found) :
    declaration name type default =
      if found then .error (.variableInDefault label) else .ok (.variable label type default) := by
  rw [declaration, checked, ok_bind]
  split
  case h_1 => exact absurd rfl isGiven
  case h_2 =>
    rw [contains]
    cases found <;> rfl

/-- A variable that is made has a default value that mentions no variable. -/
theorem containsVariable_of_declaration
    {name type default made : Datum}
    (isMade : declaration name type default = .ok made)
    (isGiven : default ≠ .null) :
    containsVariable default = .ok false := by
  obtain ⟨label, -, isMade⟩ := bind_eq_ok_iff.mp isMade
  split at isMade
  case h_1 => exact absurd rfl isGiven
  case h_2 =>
    obtain ⟨found, contains, isMade⟩ := bind_eq_ok_iff.mp isMade
    cases found with
    | true => cases isMade
    | false => exact contains

/-- The variables with a name that passes and a tree for their default value are those whose
default mentions no variable. -/
theorem declaration_of_tree
    {name value : Datum}
    {label : Label}
    (type : Datum)
    (checked : checkName "variable name" name = .ok label)
    (tree : value.ValueTree) :
    (value.Mentions → declaration name type value = .error (.variableInDefault label)) ∧
      (¬value.Mentions → declaration name type value = .ok (.variable label type value)) := by
  obtain ⟨found, contains, iffMentions⟩ := exists_containsVariable tree
  have isGiven : value ≠ .null := by rintro rfl; cases tree
  rw [declaration_eq checked isGiven contains, ← iffMentions]
  cases found <;> simp

end Node

theorem Build.declare_eq_declaration
    {wanted type given value : Datum}
    (name : Datum)
    (isType : Node.asType wanted = .ok type)
    (isGiven : given ≠ .unset)
    (converted : given.toValue = .ok value) :
    declare name wanted given = Node.declaration name type value := by
  unfold declare
  split
  case h_1 => exact absurd rfl isGiven
  case h_2 => simp only [converted, isType, ok_bind]

end GraphQL
