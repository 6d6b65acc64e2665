import GraphQL.Request.Fault
import GraphQL.Request.Written
import GraphQL.Source.Printer
import GraphQL.Text.Quoted

/-!
# The layout of requests

A request is laid out in one of two ways.  Spread out, every selection has a line
of its own, indented once more than its owner, and definitions are a blank line
apart.  Compact, every definition has one line.  All else is the same in both:
values, arguments and directives never break a line.
-/

namespace GraphQL

open Text (Lines.joinWith)

/-- The characters that indentation is made of. -/
def isIndent (c : Char) : Bool :=
  c = ' ' || c = '\t'

/-- Choices for the layout of a request. -/
structure Layout where
  /-- The indentation of one level. -/
  indent : String
  /-- Every definition is on one line. -/
  compact : Bool
  /-- Indentation is made of spaces and tabs. -/
  blank : indent.toList.all isIndent = true

namespace Layout

/-- The layout that is used unless another is asked for. -/
def standard : Layout := ⟨"  ", false, by decide⟩

/-- The layout with given indentation, which has to be blank. -/
def of (indent : String) (compact : Bool) : Except Fault Layout :=
  if blank : indent.toList.all isIndent = true then .ok ⟨indent, compact, blank⟩
  else .error .indentNotBlank

/-- The indentation of a level. -/
def margin (layout : Layout) (depth : Nat) : String :=
  String.join (List.replicate depth layout.indent)

@[simp] theorem margin_zero (layout : Layout) : layout.margin 0 = "" := by
  simp [margin]

theorem margin_succ (layout : Layout) (depth : Nat) :
    layout.margin (depth + 1) = layout.indent ++ layout.margin depth := by
  simp [margin, List.replicate_succ]

/-! ## Values -/

mutual

/-- The text of a value. -/
def value : Written.Value → String
  | .variable name => "$" ++ name
  | .int numeral | .float numeral => numeral
  | .string text => Text.Quoted.encode text
  | .spelled literal => literal
  | .boolean flag => if flag then "true" else "false"
  | .null => "null"
  | .enum symbol => symbol
  | .list items => "[" ++ Lines.joinWith ", " (values items) ++ "]"
  | .object fields => "\x7b" ++ Lines.joinWith ", " (named fields) ++ "\x7d"

/-- The texts of values. -/
def values : List Written.Value → List String
  | [] => []
  | item :: items => value item :: values items

/-- The texts of named values. -/
def named : List (String × Written.Value) → List String
  | [] => []
  | (name, item) :: rest => (name ++ ": " ++ value item) :: named rest

end

/-! ## Selections -/

/-- Texts in parentheses, or nothing if they are left out. -/
def parentheses : Option (List String) → String
  | none => ""
  | some texts => "(" ++ Lines.joinWith ", " texts ++ ")"

/-- A directive with a space before it. -/
def directive (applied : Written.Directive) : String :=
  " @" ++ applied.name ++ parentheses (applied.arguments?.map named)

/-- Directives, each with a space before it. -/
def directives (applied : List Written.Directive) : String :=
  String.join (applied.map directive)

/-- The laid-out items of a selection set at a level in braces. -/
def braces (layout : Layout) (depth : Nat) (items : List String) : String :=
  if layout.compact then "\x7b " ++ Lines.joinWith " " items ++ " \x7d"
  else
    "\x7b\n" ++ Lines.joinWith "\n" (items.map (layout.margin (depth + 1) ++ ·)) ++ "\n" ++
      layout.margin depth ++ "\x7d"

/-- The braces of a selection set that is left out where there has to be one. -/
def noSelections : String := "\x7b\x7d"

/-- What a field is requested as: its name, after its alias if it has one. -/
def label (alias? : Option String) (name : String) : String :=
  match alias? with
  | some label => label ++ ": " ++ name
  | none => name

/-- The opening of an inline fragment. -/
def condition (name? : Option String) : String :=
  "..." ++ (name?.map (" on " ++ ·)).getD ""

mutual

/-- The text of a selection at a level. -/
def selection (layout : Layout) (depth : Nat) : Written.Selection → String
  | .field alias? name arguments? applied none =>
    label alias? name ++ parentheses (arguments?.map named) ++ directives applied
  | .field alias? name arguments? applied (some selected) =>
    label alias? name ++ parentheses (arguments?.map named) ++ directives applied ++ " " ++
      layout.braces depth (selections layout (depth + 1) selected)
  | .spread name applied => "..." ++ name ++ directives applied
  | .inlineFragment name? applied none =>
    condition name? ++ directives applied ++ " " ++ noSelections
  | .inlineFragment name? applied (some selected) =>
    condition name? ++ directives applied ++ " " ++
      layout.braces depth (selections layout (depth + 1) selected)

/-- The texts of selections at a level. -/
def selections (layout : Layout) (depth : Nat) : List Written.Selection → List String
  | [] => []
  | first :: rest => selection layout depth first :: selections layout depth rest

end

/-- A selection set that belongs to a definition. -/
def selectionSet (layout : Layout) : Option (List Written.Selection) → String
  | none => noSelections
  | some selected => layout.braces 0 (layout.selections 1 selected)

/-! ## Definitions -/

/-- The declaration of a variable. -/
def variableDefinition (declared : Written.VariableDefinition) : String :=
  "$" ++ declared.name ++ ": " ++ declared.type.print ++
    (declared.default?.map fun default => " = " ++ value default).getD ""

/-- Declarations in parentheses, or nothing if they are left out. -/
def variableDefinitions (declared? : Option (List Written.VariableDefinition)) : String :=
  parentheses (declared?.map fun declared => declared.map variableDefinition)

/-- An optional name after a space. -/
def operationName (name? : Option String) : String :=
  (name?.map (" " ++ ·)).getD ""

/-- The text of a definition. -/
def definition (layout : Layout) : Written.Definition → String
  | .operation keyword name? declared? applied selections? =>
    keyword ++ operationName name? ++ variableDefinitions declared? ++ directives applied ++
      " " ++ layout.selectionSet selections?
  | .listed head selections? => head ++ " " ++ layout.selectionSet selections?
  | .fragment name condition applied selections? =>
    "fragment " ++ name ++ " on " ++ condition ++ directives applied ++ " " ++
      layout.selectionSet selections?

/-- What stands between two definitions. -/
def separator (layout : Layout) : String :=
  if layout.compact then "\n" else "\n\n"

/-- The text of a document. -/
def document (layout : Layout) (definitions : List Written.Definition) : String :=
  Lines.joinWith layout.separator (definitions.map layout.definition)

end Layout

end GraphQL
