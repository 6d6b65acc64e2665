import GraphQL.Request.Writing
import GraphQL.Schema.Description
import GraphQL.Text.Block

/-!
# Schema text

The definition of a described type: its description as a block string, its
keyword and name, and its fields in braces, each on a line under its own
description.
-/

namespace GraphQL
namespace Schema

/-- Data that is noted with a field, as put into running text. -/
def noted (given : Datum) : Except SchemaFault String :=
  if given.showsLong then .error (.unwritableName .tooLongToWrite)
  else
    match given with
    | .scalar value => .ok value.shown
    | other => .ok other.display

namespace FieldDescription

/-- The description of a field on a line of its own, after a line break, or
nothing. -/
def sdlHead (field : FieldDescription) : Except SchemaFault String :=
  if field.description.truthy then
    match Written.stringLiteral field.description with
    | .ok literal => .ok ("\n  " ++ Layout.value literal)
    | .error fault => .error (.badDescription fault)
  else .ok ""

/-- The lines of a field, each after a line break. -/
def sdl (field : FieldDescription) : Except SchemaFault String := do
  return (← field.sdlHead) ++ "\n  " ++ (← noted field.name) ++ ": " ++ field.type.print

end FieldDescription

namespace TypeDescription

/-- The description of a type on lines of its own, or nothing. -/
def sdlHead (type : TypeDescription) : String :=
  match type.description? with
  | some text => if text = "" then "" else "\"\"\"" ++ Text.Block.inline text ++ "\"\"\"\n"
  | none => ""

/-- The definition of a type with given fields. -/
def sdlWith (type : TypeDescription) (fields : List FieldDescription) :
    Except SchemaFault String := do
  let texts ← fields.mapM FieldDescription.sdl
  return type.sdlHead ++ (if type.isInput then "input" else "type") ++ " " ++ type.name ++
    " \x7b" ++ String.join texts ++ "\n\x7d"

/-- The definition of a type, with its fields in the order of documentation if
that is asked for. -/
def sdl (type : TypeDescription) (documentation : Bool) : Except SchemaFault String :=
  type.sdlWith (if documentation then type.documented.filterMap id else type.fields)

end TypeDescription

/-- The definitions of the types that classes are, a blank line apart.  Classes are
described one after another. -/
def sdl (classes : List Class) (documentation : Bool) (targets : List Class) :
    Except SchemaFault String := do
  let texts ← targets.mapM fun cls => do
    (← cls.describe classes).sdl documentation
  return Text.Lines.joinWith "\n\n" texts

end Schema
end GraphQL
