import GraphQL.Text.Lines

/-!
# Types of fields

What the fields of a class are declared to hold: numbers, texts, members of other
classes, collections of such, or one of several.  A union knows whether it was
written with brackets or with bars; unions inside unions are flattened and
repeated members dropped when a union is made, and a union of one member is that
member.
-/

namespace GraphQL
namespace Schema

open Text (Lines.joinWith)

/-- The classes of plain values that a schema has scalars for. -/
inductive ScalarClass
  | str
  | int
  | float
  | decimal
  | bool
  | uuid
  deriving DecidableEq, Repr

namespace ScalarClass

/-- The scalar type of a class. -/
def typeName : ScalarClass → String
  | str => "String"
  | int => "Int"
  | float | decimal => "Float"
  | bool => "Boolean"
  | uuid => "ID"

/-- The full name of a class. -/
def fullName : ScalarClass → String
  | str => "str"
  | int => "int"
  | float => "float"
  | decimal => "decimal.Decimal"
  | bool => "bool"
  | uuid => "uuid.UUID"

end ScalarClass

/-- The collections that are declared with what they hold. -/
inductive Collection
  | list
  | set
  | frozenset
  | tuple
  | dict
  deriving DecidableEq, Repr

namespace Collection

/-- The name of a collection. -/
def name : Collection → String
  | list => "list"
  | set => "set"
  | frozenset => "frozenset"
  | tuple => "tuple"
  | dict => "dict"

end Collection

/-- Why types make no union. -/
inductive UnionFault
  | noMembers
  | noAlternatives
  | nothingAlone
  deriving DecidableEq, Repr

namespace UnionFault

/-- What is said about types that make no union. -/
def message : UnionFault → String
  | noMembers => "Cannot take a Union of no types."
  | noAlternatives => "reduce() of empty iterable with no initial value"
  | nothingAlone => "unsupported operand type(s) for |: 'NoneType' and 'NoneType'"

end UnionFault

/-- What a field is declared to hold. -/
inductive FieldType
  /-- A scalar. -/
  | scalar (kind : ScalarClass)
  /-- Anything. -/
  | any
  /-- Nothing, as written. -/
  | none
  /-- Nothing, as a class. -/
  | noneType
  /-- A class without a place in schemas, by its full name. -/
  | foreign (fullName : String)
  /-- A class that is declared by the caller, by its place among the classes. -/
  | declared (place : Nat) (name : String)
  /-- A list without what it holds. -/
  | someList
  /-- A tuple without what it holds. -/
  | someTuple
  /-- A collection of given things. -/
  | collection (kind : Collection) (items : List FieldType)
  /-- A list of given things, in the older notation. -/
  | listOf (item : FieldType)
  /-- A tuple of any number of given things. -/
  | tupleOf (item : FieldType)
  /-- One of given constants, which are kept as shown. -/
  | literal (values : List String)
  /-- One of several, written with brackets. -/
  | union (members : List FieldType)
  /-- One of several, written with bars. -/
  | alternatives (members : List FieldType)

namespace FieldType

mutual

/-- Equality of types.  The order of what a union or a literal admits does not count,
nor does how a union is written. -/
def same : FieldType → FieldType → Bool
  | scalar a, scalar b => a = b
  | any, any | none, none | noneType, noneType | someList, someList | someTuple, someTuple => true
  | foreign a, foreign b => a = b
  | declared a _, declared b _ => a = b
  | collection k as, collection l bs => k = l && sameAll as bs
  | listOf a, listOf b | tupleOf a, tupleOf b => same a b
  | literal as, literal bs => as.length = bs.length && as.all bs.contains
  | union as, union bs | union as, alternatives bs | alternatives as, union bs
  | alternatives as, alternatives bs => as.length = bs.length && allAmong as bs
  | _, _ => false

/-- Equality of types one by one. -/
def sameAll : List FieldType → List FieldType → Bool
  | [], [] => true
  | a :: as, b :: bs => same a b && sameAll as bs
  | _, _ => false

/-- All of some types are among others. -/
def allAmong : List FieldType → List FieldType → Bool
  | [], _ => true
  | a :: as, bs => bs.any (same a) && allAmong as bs

end

instance : BEq FieldType := ⟨same⟩

/-! ## As shown in messages -/

mutual

/-- A type as shown in messages. -/
def display : FieldType → String
  | scalar kind => "<class '" ++ kind.fullName ++ "'>"
  | any => "typing.Any"
  | none => "None"
  | noneType => "<class 'NoneType'>"
  | foreign fullName => "<class '" ++ fullName ++ "'>"
  | declared _ name => "<class 'app." ++ name ++ "'>"
  | someList => "typing.List"
  | someTuple => "typing.Tuple"
  | collection kind [] => kind.name ++ "[()]"
  | collection kind items => kind.name ++ "[" ++ Lines.joinWith ", " (partTexts items) ++ "]"
  | listOf item => "typing.List[" ++ partText item ++ "]"
  | tupleOf item => "tuple[" ++ partText item ++ ", ...]"
  | literal [] => "typing.Literal[()]"
  | literal values => "typing.Literal[" ++ Lines.joinWith ", " values ++ "]"
  | union [noneType, item] => "typing.Optional[" ++ partText item ++ "]"
  | union [item, noneType] => "typing.Optional[" ++ partText item ++ "]"
  | union members => "typing.Union[" ++ Lines.joinWith ", " (partTexts members) ++ "]"
  | alternatives members => Lines.joinWith " | " (alternativeTexts members)

/-- A type as shown inside another: classes by name alone. -/
def partText : FieldType → String
  | scalar kind => kind.fullName
  | noneType => "NoneType"
  | foreign fullName => fullName
  | declared _ name => "app." ++ name
  | other => display other

/-- Types as shown inside another. -/
def partTexts : List FieldType → List String
  | [] => []
  | item :: items => partText item :: partTexts items

/-- Types as shown between bars. -/
def alternativeTexts : List FieldType → List String
  | [] => []
  | noneType :: items => "None" :: alternativeTexts items
  | item :: items => partText item :: alternativeTexts items

end

/-! ## Unions -/

/-- The members that a type brings to a union. -/
def members : FieldType → List FieldType
  | none => [noneType]
  | union items | alternatives items => items
  | item => [item]

/-- A list without later repetitions. -/
def distinct (items : List FieldType) : List FieldType :=
  items.foldl (fun seen item => if seen.contains item then seen else seen ++ [item]) []

/-- The union of distinct members, of which one alone is no union. -/
def unionOf (items : List FieldType) : FieldType :=
  match distinct (items.flatMap members) with
  | [item] => item
  | items => union items

/-- The type makes a union with brackets out of bars. -/
def prefersBrackets : FieldType → Bool
  | someList | someTuple | listOf _ | literal _ | union _ => true
  | _ => false

/-- One of two, written with bars. -/
def either (first second : FieldType) : FieldType :=
  match distinct (first.members ++ second.members) with
  | [item] => item
  | items => alternatives items

/-- The type where nothing is a class. -/
def asClass : FieldType → FieldType
  | none => noneType
  | type => type

end FieldType
end Schema
end GraphQL
