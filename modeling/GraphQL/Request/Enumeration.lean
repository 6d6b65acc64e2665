import GraphQL.Data.Equality
import GraphQL.Request.Writing

/-!
# Enums

An enum is declared by the names and values of its members.  If its members count as
texts or whole numbers, their values are made into such first, a tuple being what a
text or number is made of.  Members of one value are one member, and the first name
is theirs.  Names between underscores do not belong to members.
-/

namespace GraphQL
namespace Enumeration

/-! ## Values -/

/-- The text that bytes stand for; other data is no text of an encoding. -/
def decoded (value : Datum) : Except Fault String :=
  match value with
  | .scalar (.bytes bytes) => (Text.Utf8.decode bytes).mapError .undecodable
  | value =>
    .error (if value.asText?.isSome then .textDecoded else .bytesWanted value.fullName)

/-- The text that is made of some data. -/
def textOf (given : List Datum) : Except Fault String :=
  match given with
  | [] => .ok ""
  | [value] => value.shown
  | [value, encoding] =>
    if encoding.asText?.isNone then .error (.choiceWanted "encoding" encoding)
    else decoded value
  | [value, encoding, errors] =>
    if encoding.asText?.isNone then .error (.choiceWanted "encoding" encoding)
    else if errors.asText?.isNone then .error (.choiceWanted "errors" errors)
    else decoded value
  | given => .error (.tooManyIngredients "str" 3 given.length)

/-- The whole number that is made of some data. -/
def wholeOf (given : List Datum) : Except Fault Int :=
  match given with
  | [] => .ok 0
  | [value] => Numeral.toInt value
  | [value, base] =>
    match base.asInt? with
    | none => .error (.baseWanted base.fullName)
    | some base =>
      if base < 0 || base = 1 || 36 < base then .error .badBase
      else
        match value.asText?, value with
        | some text, _ => Numeral.readFrom base.toNat value text.toList
        | none, .scalar (.bytes bytes) => Numeral.readBytes base.toNat bytes
        | none, _ => .error .textWanted
  | given => .error (.tooManyIngredients "int" 2 given.length)

/-- What a value is made of. -/
def ingredients : Datum → List Datum
  | .tuple items => items
  | value => [value]

/-- The value that a member gets: what the members of its enum count as. -/
def memberValue (mixin : Mixin) (value : Datum) : Except Fault Datum :=
  match mixin with
  | .plain => .ok value
  | .text => (textOf (ingredients value)).map .text
  | .int => (wholeOf (ingredients value)).map .int

/-! ## Names -/

/-- The name stands between single underscores. -/
def isReserved (name : String) : Bool :=
  match name.toList, name.toList.reverse with
  | '_' :: second :: _ :: _, '_' :: last :: _ => second ≠ '_' && last ≠ '_'
  | _, _ => false

/-- The name belongs to the enum alone: it opens with an underscore, the name of the
enum and two underscores. -/
def isPrivate (enumName name : String) : Bool :=
  let opening := "_" ++ enumName ++ "__"
  name.startsWith opening && opening.length < name.length && !name.endsWith "__"

/-- The name stands between two underscores on either side. -/
def isEnclosed (name : String) : Bool :=
  match name.toList, name.toList.reverse with
  | '_' :: '_' :: third :: _ :: _, '_' :: '_' :: last :: _ => third ≠ '_' && last ≠ '_'
  | _, _ => false

/-- The names under which an enum keeps how it works, which takes no part here. -/
def settings : List String :=
  ["_generate_next_value_", "_numeric_repr_", "_missing_", "_iter_member_",
    "_iter_member_by_value_", "_iter_member_by_def_"]

/-- The name is none of a member, although it can be given. -/
def isHidden (enumName name : String) : Bool :=
  isPrivate enumName name || isEnclosed name || settings.contains name

/-- The members among named values.  No name may be given twice. -/
def checkNames (enumName : String) (seen : List (String × Datum)) :
    List (String × Datum) → Except Fault (List (String × Datum))
  | [] => .ok seen
  | (name, value) :: entries =>
    if isHidden enumName name then checkNames enumName seen entries
    else if isReserved name then .error (.reservedMemberName name)
    else
      match seen.find? fun entry => entry.1 = name with
      | some (_, first) => .error (Fault.memberDefinedTwice name first).raised
      | none => checkNames enumName (seen ++ [(name, value)]) entries

/-- The name is one that no member can have. -/
def isBad (name : String) : Bool :=
  name = "mro" || name = ""

/-! ## Members -/

/-- The members of an enum with given members, by name. -/
def declare (enumName : String) (mixin : Mixin) (members : List (String × Datum)) :
    Except Fault (List (String × Datum)) := do
  let named ← checkNames enumName [] members
  if let some (name, _) := named.find? fun entry => isBad entry.1 then
    throw (.badMemberName name)
  named.mapM fun entry => do
    return (entry.1, ← memberValue mixin entry.2)

/-- The member that a named value makes.  Of values that are the same the first makes
the member for all. -/
def made (family : Family) (valued : List (String × Datum)) (others : List (String × Datum))
    (entry : String × Datum) : Datum :=
  let (name, value) := (valued.find? fun other => other.2.same entry.2).getD entry
  .member family name value others

/-- A member of an enum with given members, picked by name. -/
def member (family : Family) (members : List (String × Datum)) (pick : String) :
    Except Fault Datum := do
  let valued ← declare family.name family.mixin members
  match valued.find? fun entry => entry.1 = pick with
  | none => throw (.unknownMember pick)
  | some picked =>
    let others := valued.map fun entry => (entry.1, made family valued [] entry)
    return made family valued others picked

end Enumeration
end GraphQL
