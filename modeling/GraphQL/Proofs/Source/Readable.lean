import GraphQL.Source.Document
import GraphQL.Text.Name

/-!
# Documents that can be read back

Two things are asked of a document that is to be read back from its lexemes.  It has to
be readable, which means that its parts can be told apart when they are read: an enum
symbol is no other word, a fragment is not called `on`, and a constant holds no
variable.  And it has to be complete: it holds a definition, every operation, fragment
and inline fragment has selections, and no type has two exclamation marks in a row.
-/

namespace GraphQL
namespace Source

/-! ## What can be read back -/

/-- The value can be told from other values, and holds no variable if it is a
constant. -/
inductive Value.Readable (constant : Bool) : Value → Prop
  | reference (name : String) :
      constant = false →
      Readable constant (.variable name)
  | int (text : String) : Readable constant (.int text)
  | float (text : String) : Readable constant (.float text)
  | string (text : String) (block : Bool) : Readable constant (.string text block)
  | boolean (value : Bool) : Readable constant (.boolean value)
  | null : Readable constant .null
  | enum (symbol : String) :
      Text.Name.isReserved symbol = false →
      Readable constant (.enum symbol)
  | list (items : List Value) :
      (∀ item ∈ items, Readable constant item) →
      Readable constant (.list items)
  | object (fields : List (String × Value)) :
      (∀ field ∈ fields, Readable constant field.2) →
      Readable constant (.object fields)

/-- The values of the arguments can be read back. -/
def Directive.Readable (constant : Bool) (directive : Directive) : Prop :=
  ∀ argument ∈ directive.arguments, argument.value.Readable constant

/-- The values in the selection can be read back, and no fragment in it is called
`on`. -/
inductive Selection.Readable : Selection → Prop
  | field
      (alias? : Option String)
      (name : String)
      (arguments : List Argument)
      (directives : List Directive)
      (selections : List Selection) :
      (∀ argument ∈ arguments, argument.value.Readable false) →
      (∀ directive ∈ directives, directive.Readable false) →
      (∀ selection ∈ selections, Readable selection) →
      Readable (.field alias? name arguments directives selections)
  | spread (name : String) (directives : List Directive) :
      name ≠ "on" →
      (∀ directive ∈ directives, directive.Readable false) →
      Readable (.spread name directives)
  | inlineFragment
      (condition? : Option String)
      (directives : List Directive)
      (selections : List Selection) :
      (∀ directive ∈ directives, directive.Readable false) →
      (∀ selection ∈ selections, Readable selection) →
      Readable (.inlineFragment condition? directives selections)

/-- The default value is a constant that can be read back. -/
def VariableDefinition.Readable (declared : VariableDefinition) : Prop :=
  (∀ default ∈ declared.default?, default.Readable true) ∧
    ∀ directive ∈ declared.directives, directive.Readable true

/-- The definition is an operation or a fragment, and its parts can be read back. -/
def Definition.Readable : Definition → Prop
  | .operation _ _ declarations directives selections =>
    (∀ declared ∈ declarations, declared.Readable) ∧
      (∀ directive ∈ directives, directive.Readable false) ∧
      ∀ selection ∈ selections, selection.Readable
  | .fragment name _ directives selections =>
    name ≠ "on" ∧ (∀ directive ∈ directives, directive.Readable false) ∧
      ∀ selection ∈ selections, selection.Readable
  | _ => False

/-- The definition is an operation or a fragment. -/
def Definition.isExecutable : Definition → Bool
  | .operation _ _ _ _ _ | .fragment _ _ _ _ => true
  | _ => false

/-! ## What has to be there -/

namespace TypeRef

/-- The type is marked as being without null. -/
def isNonNull : TypeRef → Bool
  | .nonNull _ => true
  | _ => false

/-- No part of the type is marked twice as being without null. -/
def Undoubled : TypeRef → Prop
  | .named _ => True
  | .list of => of.Undoubled
  | .nonNull of => of.isNonNull = false ∧ of.Undoubled

end TypeRef

namespace Selection

mutual

/-- Every inline fragment in the selection has selections. -/
def Filled : Selection → Prop
  | .field _ _ _ _ selections => AllFilled selections
  | .spread _ _ => True
  | .inlineFragment _ _ selections => selections ≠ [] ∧ AllFilled selections

/-- Every inline fragment in the selections has selections. -/
def AllFilled : List Selection → Prop
  | [] => True
  | selection :: selections => Filled selection ∧ AllFilled selections

end

@[simp] theorem allFilled_iff (selections : List Selection) :
    AllFilled selections ↔ ∀ selection ∈ selections, selection.Filled := by
  induction selections with
  | nil => simp [AllFilled]
  | cons selection selections inductionHypothesis => simp [AllFilled, inductionHypothesis]

end Selection

/-- The definition has selections wherever there have to be some, and no declared type
is doubly marked. -/
def Definition.Complete : Definition → Prop
  | .operation _ _ declarations _ selections =>
    (∀ declared ∈ declarations, declared.type.Undoubled) ∧ selections ≠ [] ∧
      ∀ selection ∈ selections, selection.Filled
  | .fragment _ _ _ selections =>
    selections ≠ [] ∧ ∀ selection ∈ selections, selection.Filled
  | _ => True

/-- The document has a definition, and all of its definitions are complete. -/
def Document.Complete (document : Document) : Prop :=
  document.definitions ≠ [] ∧ ∀ definition ∈ document.definitions, definition.Complete

end Source
end GraphQL
