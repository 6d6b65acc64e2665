import GraphQL.Proofs.Source.Spelling
import GraphQL.Request.Written
import Mathlib.Data.List.Forall2

/-!
# What written requests mean

A request as it is written means a source document when both have the same parts in the
same order.  Names are put into a text as they are, and which names are fit for that is
left open; a numeral has to be a single number token.  Some written requests mean
nothing: those with a literal that is spelled out already, or with a group in brackets
that is written although it holds nothing.
-/

namespace GraphQL
namespace Written

open Source (Spells)

variable (fit : String → Prop)

/-! ## Values -/

/-- What is written means the value. -/
inductive Value.Means : Value → Source.Value → Prop
  | reference {name : String} :
      fit name →
      Means (.variable name) (.variable name)
  | int {numeral : String} :
      Spells numeral (.of [.int numeral]) →
      Means (.int numeral) (.int numeral)
  | float {numeral : String} :
      Spells numeral (.of [.float numeral]) →
      Means (.float numeral) (.float numeral)
  | string (text : String) : Means (.string text) (.string text false)
  | boolean (value : Bool) : Means (.boolean value) (.boolean value)
  | null : Means .null .null
  | enum {symbol : String} :
      fit symbol →
      Means (.enum symbol) (.enum symbol)
  | list {items : List Value} {values : List Source.Value} :
      items.length = values.length →
      (∀ item value, (item, value) ∈ items.zip values → Means item value) →
      Means (.list items) (.list values)
  | object {fields : List (String × Value)} {values : List (String × Source.Value)} :
      fields.length = values.length →
      (∀ field value, (field, value) ∈ fields.zip values → field.1 = value.1 ∧ fit field.1) →
      (∀ field value, (field, value) ∈ fields.zip values → Means field.2 value.2) →
      Means (.object fields) (.object values)

/-- An argument as it is written means the argument. -/
def EntryMeans (entry : String × Value) (argument : Source.Argument) : Prop :=
  entry.1 = argument.name ∧ fit entry.1 ∧ entry.2.Means fit argument.value

/-- What is written for arguments means the arguments. -/
def ArgumentsMean
    (entries? : Option (List (String × Value)))
    (arguments : List Source.Argument) : Prop :=
  entries? ≠ some [] ∧ List.Forall₂ (EntryMeans fit) (entries?.getD []) arguments

/-- A directive as it is written means the directive. -/
def Directive.Means (applied : Directive) (directive : Source.Directive) : Prop :=
  applied.name = directive.name ∧ fit applied.name ∧
    ArgumentsMean fit applied.arguments? directive.arguments

/-! ## Selections -/

/-- A selection as it is written means the selection. -/
inductive Selection.Means : Selection → Source.Selection → Prop
  | field
      {alias? : Option String}
      {name : String}
      {entries? : Option (List (String × Value))}
      {arguments : List Source.Argument}
      {applied : List Directive}
      {directives : List Source.Directive}
      {selected? : Option (List Selection)}
      {selections : List Source.Selection} :
      (∀ label ∈ alias?, fit label) →
      fit name →
      ArgumentsMean fit entries? arguments →
      List.Forall₂ (Directive.Means fit) applied directives →
      selected? ≠ some [] →
      (selected?.getD []).length = selections.length →
      (∀ selected selection, (selected, selection) ∈ (selected?.getD []).zip selections →
        Means selected selection) →
      Means (.field alias? name entries? applied selected?)
        (.field alias? name arguments directives selections)
  | spread
      {name : String}
      {applied : List Directive}
      {directives : List Source.Directive} :
      fit name →
      List.Forall₂ (Directive.Means fit) applied directives →
      Means (.spread name applied) (.spread name directives)
  | inlineFragment
      {condition? : Option String}
      {applied : List Directive}
      {directives : List Source.Directive}
      {selected? : Option (List Selection)}
      {selections : List Source.Selection} :
      (∀ condition ∈ condition?, fit condition) →
      List.Forall₂ (Directive.Means fit) applied directives →
      (selected?.getD []).length = selections.length →
      (∀ selected selection, (selected, selection) ∈ (selected?.getD []).zip selections →
        Means selected selection) →
      Means (.inlineFragment condition? applied selected?)
        (.inlineFragment condition? directives selections)

/-- What is written for selections means the selections. -/
def SelectionsMean
    (selected? : Option (List Selection))
    (selections : List Source.Selection) : Prop :=
  List.Forall₂ (Selection.Means fit) (selected?.getD []) selections

/-! ## Definitions -/

/-- The name in a reference to a type is fit. -/
def TypeFits : Source.TypeRef → Prop
  | .named name => fit name
  | .list of => TypeFits of
  | .nonNull of => TypeFits of

/-- The declaration of a variable as it is written means the definition of the
variable. -/
inductive VariableDefinition.Means : VariableDefinition → Source.VariableDefinition → Prop
  | plain {name : String} {type : Source.TypeRef} :
      fit name →
      TypeFits fit type →
      Means ⟨name, type, none⟩ ⟨name, type, none, []⟩
  | withDefault {name : String} {type : Source.TypeRef} {written : Value} {default : Source.Value} :
      fit name →
      TypeFits fit type →
      written.Means fit default →
      Means ⟨name, type, some written⟩ ⟨name, type, some default, []⟩

/-- A definition as it is written means the definition. -/
inductive Definition.Means : Definition → Source.Definition → Prop
  | operation
      (kind : Source.OperationKind)
      {name? : Option String}
      {declared? : Option (List VariableDefinition)}
      {declarations : List Source.VariableDefinition}
      {applied : List Directive}
      {directives : List Source.Directive}
      {selected? : Option (List Selection)}
      {selections : List Source.Selection} :
      (∀ name ∈ name?, fit name) →
      declared? ≠ some [] →
      List.Forall₂ (VariableDefinition.Means fit) (declared?.getD []) declarations →
      List.Forall₂ (Directive.Means fit) applied directives →
      SelectionsMean fit selected? selections →
      Means (.operation kind.text name? declared? applied selected?)
        (.operation kind name? declarations directives selections)
  | fragment
      {name condition : String}
      {applied : List Directive}
      {directives : List Source.Directive}
      {selected? : Option (List Selection)}
      {selections : List Source.Selection} :
      fit name →
      fit condition →
      List.Forall₂ (Directive.Means fit) applied directives →
      SelectionsMean fit selected? selections →
      Means (.fragment name condition applied selected?)
        (.fragment name condition directives selections)

/-- A document as it is written means the document. -/
def DocumentMeans (written : List Definition) (document : Source.Document) : Prop :=
  List.Forall₂ (Definition.Means fit) written document.definitions

end Written
end GraphQL
