import GraphQL.Request.Node

/-!
# Requests whose parts are what they are declared to be

Any data can be put into a node.  A request is typed when every part of every node is of
the kind that is declared for it and has passed the checks of the node: collections are
tuples, numbers are numbers and texts are texts, an enum symbol is no other word, a
fragment is not called `on`, and a default value mentions no variable.  A type, a value
or a selection may be of no particular kind, and then cannot be written.  What is asked
of a name is left open.
-/

namespace GraphQL
namespace Typed

variable (named : Label → Prop)

/-! ## Types and values -/

/-- The data is a reference to a type. -/
inductive TypeRef : Datum → Prop
  | name {name : Label} :
      named name →
      TypeRef (.namedType name)
  | list {of : Datum} :
      TypeRef of →
      TypeRef (.listType of)
  | nonNull {of : Datum} :
      TypeRef of →
      TypeRef (.nonNullType of)
  | bare (serial : Nat) : TypeRef (.bare .typeRef serial)

/-- Input fields as a tuple. -/
def objectFields (fields : List (Label × Datum)) : Datum :=
  .tuple (fields.map fun field => .objectField field.1 field.2)

theorem mem_objectFields_iff
    {fields : List (Label × Datum)}
    {name : Label}
    {value : Datum} :
    .objectField name value ∈ (fields.map fun field => Datum.objectField field.1 field.2) ↔
      (name, value) ∈ fields := by
  rw [List.mem_map]
  constructor
  · rintro ⟨field, present, same⟩
    obtain ⟨rfl, rfl⟩ := Datum.objectField.inj same
    exact present
  · exact fun present => ⟨(name, value), present, rfl⟩

/-- The data is a value.  Where a variable is mentioned, only its name matters. -/
inductive Value : Datum → Prop
  | reference {name : Label} (type default : Datum) :
      named name →
      Value (.variable name type default)
  | null : Value .nullValue
  | boolean (value : Bool) : Value (.booleanValue (.bool value))
  | int {given : Datum} {value : Int} :
      given.asInt? = some value →
      Value (.intValue given)
  | float (value : Number.Binary64) : Value (.floatValue (.float value))
  | decimal (value : Number.Decimal) : Value (.floatValue (.decimal value))
  | string {given : Datum} {text : String} :
      given.asText? = some text →
      Value (.stringValue given)
  | enum {symbol : Label} :
      named symbol →
      Text.Name.isReserved symbol.text = false →
      Value (.enumValue symbol)
  | list {items : List Datum} :
      (∀ item ∈ items, Value item) →
      Value (.listValue (.tuple items))
  | object {fields : List (Label × Datum)} :
      (∀ field ∈ fields, named field.1) →
      (∀ field ∈ fields, Value field.2) →
      Value (.objectValue (objectFields fields))
  | bare (serial : Nat) : Value (.bare .value serial)

/-! ## Arguments and directives -/

/-- The data is a tuple of arguments. -/
inductive Arguments : Datum → Prop
  | of {arguments : List (Label × Datum)} :
      (∀ argument ∈ arguments, named argument.1) →
      (∀ argument ∈ arguments, Value named argument.2) →
      Arguments (.tuple (arguments.map fun argument => .argument argument.1 argument.2))

/-- The data is a tuple of directives. -/
inductive Directives : Datum → Prop
  | of {directives : List (Label × Datum)} :
      (∀ directive ∈ directives, named directive.1) →
      (∀ directive ∈ directives, Arguments named directive.2) →
      Directives (.tuple (directives.map fun directive => .directive directive.1 directive.2))

/-! ## Selections -/

/-- The data is a selection. -/
inductive Selection : Datum → Prop
  | field
      {name : Label}
      {alias? : Option Label}
      {arguments directives : Datum}
      {selections : List Datum} :
      named name →
      (∀ label ∈ alias?, named label) →
      Arguments named arguments →
      Directives named directives →
      (∀ selection ∈ selections, Selection selection) →
      Selection (.field name alias? arguments directives (.tuple selections))
  | spread {name : Label} {directives : Datum} :
      named name →
      Directives named directives →
      Selection (.fragmentSpread name directives)
  | inlineFragment
      {condition? : Option Label}
      {directives : Datum}
      {selections : List Datum} :
      (∀ condition ∈ condition?, named condition) →
      Directives named directives →
      (∀ selection ∈ selections, Selection selection) →
      Selection (.inlineFragment condition? directives (.tuple selections))
  | bare (serial : Nat) : Selection (.bare .selection serial)

/-! ## Definitions -/

/-- The data declares a variable, whose default value is a constant if there is one. -/
inductive Declaration : Datum → Prop
  | plain {name : Label} {type : Datum} :
      named name →
      TypeRef named type →
      Declaration (.variable name type .null)
  | withDefault {name : Label} {type default : Datum} :
      named name →
      TypeRef named type →
      Value named default →
      Node.containsVariable default = .ok false →
      Declaration (.variable name type default)

/-- The kind of an operation as data. -/
def kind : Source.OperationKind → Datum
  | .query => .query
  | .mutation => .mutation
  | .subscription => .subscription

/-- The data is an operation or a fragment. -/
inductive Definition : Datum → Prop
  | operation
      (kind : Source.OperationKind)
      {name? : Option Label}
      {declarations : List Datum}
      {directives : Datum}
      {selections : List Datum} :
      (∀ name ∈ name?, named name) →
      (∀ declared ∈ declarations, Declaration named declared) →
      Directives named directives →
      (∀ selection ∈ selections, Selection named selection) →
      Definition (.operation (Typed.kind kind) name? (.tuple declarations) directives
        (.tuple selections))
  | fragment
      {name condition : Label}
      {directives : Datum}
      {selections : List Datum} :
      named name →
      name.text ≠ "on" →
      named condition →
      Directives named directives →
      (∀ selection ∈ selections, Selection named selection) →
      Definition (.fragmentDefinition name condition directives (.tuple selections))

/-- The data is a document. -/
inductive Document : Datum → Prop
  | of {definitions : List Datum} :
      (∀ definition ∈ definitions, Definition named definition) →
      Document (.document (.tuple definitions))

variable {named}

theorem Arguments.nil : Arguments named (.tuple []) :=
  @of named [] nofun nofun

theorem Directives.nil : Directives named (.tuple []) :=
  @of named [] nofun nofun

end Typed

/-! ## The nodes of a request -/

namespace Datum

mutual

/-- The nodes that have a place in the text of a request, in the order of the text.  A
variable that is mentioned stands for its name alone. -/
def nodes : Datum → List Datum
  | .tuple items => nodesOfItems items
  | .listType of => .listType of :: nodes of
  | .nonNullType of => .nonNullType of :: nodes of
  | .listValue values => .listValue values :: nodes values
  | .objectField name value => .objectField name value :: nodes value
  | .objectValue fields => .objectValue fields :: nodes fields
  | .argument name value => .argument name value :: nodes value
  | .directive name arguments => .directive name arguments :: nodes arguments
  | .field name alias? arguments directives selections =>
    .field name alias? arguments directives selections ::
      (nodes arguments ++ nodes directives ++ nodes selections)
  | .fragmentSpread name directives => .fragmentSpread name directives :: nodes directives
  | .inlineFragment condition? directives selections =>
    .inlineFragment condition? directives selections :: (nodes directives ++ nodes selections)
  | .operation kind name? declared directives selections =>
    .operation kind name? declared directives selections ::
      (declaredNodes declared ++ nodes directives ++ nodes selections)
  | .fragmentDefinition name condition directives selections =>
    .fragmentDefinition name condition directives selections ::
      (nodes directives ++ nodes selections)
  | .document definitions => .document definitions :: nodes definitions
  | other => [other]

/-- The nodes of some items. -/
def nodesOfItems : List Datum → List Datum
  | [] => []
  | item :: items => nodes item ++ nodesOfItems items

/-- The nodes of a variable where it is declared: with its type and default value. -/
def declaredNodes : Datum → List Datum
  | .tuple items => declaredNodesOfItems items
  | .variable name type default =>
    .variable name type default :: (nodes type ++ nodes default)
  | other => [other]

/-- The nodes of some variables where they are declared. -/
def declaredNodesOfItems : List Datum → List Datum
  | [] => []
  | item :: items => declaredNodes item ++ declaredNodesOfItems items

end

@[simp] theorem nodes_tuple (items : List Datum) :
    (tuple items).nodes = items.flatMap nodes := by
  rw [nodes]
  induction items with
  | nil => rfl
  | cons item items inductionHypothesis =>
    rw [nodesOfItems, inductionHypothesis, List.flatMap_cons]

@[simp] theorem declaredNodes_tuple (items : List Datum) :
    (tuple items).declaredNodes = items.flatMap declaredNodes := by
  rw [declaredNodes]
  induction items with
  | nil => rfl
  | cons item items inductionHypothesis =>
    rw [declaredNodesOfItems, inductionHypothesis, List.flatMap_cons]

section Equations

variable (name condition : Label) (alias? name? : Option Label)
variable (given kind arguments directives selections declared : Datum)

theorem nodes_listType : (listType given).nodes = listType given :: given.nodes := rfl

theorem nodes_nonNullType : (nonNullType given).nodes = nonNullType given :: given.nodes := rfl

theorem nodes_listValue : (listValue given).nodes = listValue given :: given.nodes := rfl

theorem nodes_objectField :
    (objectField name given).nodes = objectField name given :: given.nodes := rfl

theorem nodes_objectValue : (objectValue given).nodes = objectValue given :: given.nodes := rfl

theorem nodes_argument : (argument name given).nodes = argument name given :: given.nodes := rfl

theorem nodes_directive :
    (directive name arguments).nodes = directive name arguments :: arguments.nodes := rfl

theorem nodes_field :
    (field name alias? arguments directives selections).nodes =
      field name alias? arguments directives selections ::
        (arguments.nodes ++ directives.nodes ++ selections.nodes) := rfl

theorem nodes_fragmentSpread :
    (fragmentSpread name directives).nodes =
      fragmentSpread name directives :: directives.nodes := rfl

theorem nodes_inlineFragment :
    (inlineFragment name? directives selections).nodes =
      inlineFragment name? directives selections :: (directives.nodes ++ selections.nodes) := rfl

theorem nodes_operation :
    (operation kind name? declared directives selections).nodes =
      operation kind name? declared directives selections ::
        (declared.declaredNodes ++ directives.nodes ++ selections.nodes) := rfl

theorem nodes_fragmentDefinition :
    (fragmentDefinition name condition directives selections).nodes =
      fragmentDefinition name condition directives selections ::
        (directives.nodes ++ selections.nodes) := rfl

theorem nodes_variable_declared :
    (Datum.variable name given kind).declaredNodes =
      .variable name given kind :: (given.nodes ++ kind.nodes) := rfl

theorem nodes_document : (document given).nodes = document given :: given.nodes := rfl

end Equations

/-- The node is a whole number of more digits than are written. -/
def isLongWhole : Datum → Bool
  | .intValue given => given.asInt?.any Number.Whole.isLong
  | _ => false

/-- The node is an infinite or undefined number. -/
def isNonFinite : Datum → Bool
  | .floatValue (.float value) => !value.isFinite
  | .floatValue (.decimal value) => !value.isFinite
  | _ => false

/-- The node is a number that has no numeral, or of no particular kind. -/
def isUnprintable : Datum → Bool
  | .intValue given => given.asInt?.any Number.Whole.isLong
  | .floatValue (.float value) => !value.isFinite
  | .floatValue (.decimal value) => !value.isFinite
  | .bare _ _ => true
  | _ => false

/-- The node is a reference to a fragment that would be called `on`. -/
def isSpreadOfOn : Datum → Bool
  | .fragmentSpread name _ => name.text = "on"
  | _ => false

/-- The node has no selections, but there have to be some. -/
def lacksSelections : Datum → Bool
  | .operation _ _ _ _ (.tuple []) => true
  | .fragmentDefinition _ _ _ (.tuple []) => true
  | .inlineFragment _ _ (.tuple []) => true
  | _ => false

/-- The node marks a type as being without null that is marked so already. -/
def isDoublyNonNull : Datum → Bool
  | .nonNullType (.nonNullType _) => true
  | _ => false

end Datum
end GraphQL
