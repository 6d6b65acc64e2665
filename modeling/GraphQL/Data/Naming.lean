import GraphQL.Text.Display
import GraphQL.Text.Identifier
import GraphQL.Text.NormalForm

/-!
# Names of fields

The fields of a declared record are named by different identifiers in normal form,
none of them a word of the language that its code is in.  A field of a model has any
name that does not open with an underscore, which would hide it.  The first name that
breaks a rule is the one that is told; normal form comes last, when all the rest of
the record is right.
-/

namespace GraphQL

/-- Why fields cannot have the names that they are given. -/
inductive NamingFault
  /-- A name that is no identifier. -/
  | notIdentifier (name : String)
  /-- A name that is a word of the language. -/
  | reserved (name : String)
  /-- A name that two fields have. -/
  | repeated (name : String)
  /-- A name that is not in normal form. -/
  | notNormal (name : String)
  /-- A name that hides its field. -/
  | hidden (name : String)
  deriving DecidableEq, Repr

namespace Naming

/-- The words that cannot be names. -/
def reservedWords : List String :=
  ["False", "None", "True", "and", "as", "assert", "async", "await", "break", "class",
   "continue", "def", "del", "elif", "else", "except", "finally", "for", "from", "global",
   "if", "import", "in", "is", "lambda", "nonlocal", "not", "or", "pass", "raise", "return",
   "try", "while", "with", "yield"]

/-- A name that does not hide its field, in place of one that does. -/
def shownName (name : String) : String :=
  match name.toList.dropWhile (· = '_') with
  | [] => "my_field"
  | c :: cs => String.ofList (c :: cs)

/-- The name opens with an underscore. -/
def isHidden (name : String) : Bool :=
  name.toList.head? = some '_'

/-- Whether different identifiers name the fields of a record, none of them reserved
and none among those that are named already. -/
def checkRecord (named : List String) : List String → Except NamingFault Unit
  | [] => .ok ()
  | name :: names =>
    if !Text.Identifier.isIdentifier name then .error (.notIdentifier name)
    else if name ∈ reservedWords then .error (.reserved name)
    else if name ∈ named then .error (.repeated name)
    else checkRecord (name :: named) names

/-- Whether the names of the fields of a record are in normal form. -/
def checkNormal (names : List String) : Except NamingFault Unit :=
  match names.find? fun name => !Text.NormalForm.isNormal name with
  | some name => .error (.notNormal name)
  | none => .ok ()

/-- Whether no name hides a field of a model. -/
def checkModel (names : List String) : Except NamingFault Unit :=
  match names.find? isHidden with
  | some name => .error (.hidden name)
  | none => .ok ()

end Naming

namespace NamingFault

/-- What is said about a fault. -/
def message : NamingFault → String
  | notIdentifier name => "Field names must be valid identifiers: " ++ Text.Display.text name
  | reserved name => "Field names must not be keywords: " ++ Text.Display.text name
  | repeated name => "Field name duplicated: " ++ Text.Display.text name
  | notNormal name =>
    "__create_fn__() got an unexpected keyword argument '_type_" ++ name ++ "'"
  | hidden name =>
    "Fields must not use names with leading underscores; e.g., use " ++
      Text.Display.text (Naming.shownName name) ++ " instead of " ++ Text.Display.text name ++ "."

end NamingFault

end GraphQL
