import GraphQL.Schema.FieldType

/-!
# A register of types

Equal types can be spelled in more than one way, and messages show the spelling.  A
type that is written with brackets is registered when it is made.  Made again from
equal parts it is the registered one, so that its first spelling is kept.
-/

namespace GraphQL
namespace Schema

/-- The forms whose types are registered. -/
inductive Form
  | union
  | optional
  | list
  deriving DecidableEq, Repr

/-- A registered type. -/
structure Registered where
  /-- The form that it is written in. -/
  form : Form
  /-- The types that it was made from. -/
  parts : List FieldType
  /-- The type. -/
  type : FieldType

/-- The types that have been made. -/
abbrev Register := List Registered

namespace Register

/-- The registered type of a form that was made from equal parts. -/
def find? (register : Register) (form : Form) (parts : List FieldType) : Option FieldType :=
  (List.find? (fun made => made.form = form && FieldType.sameAll made.parts parts) register).map
    Registered.type

/-- The making of a type, which may look at the register and add to it. -/
abbrev Making := StateT Register (Except UnionFault)

/-- The registered type of a form and parts.  If there is none, it is made and
registered. -/
def keep (form : Form) (parts : List FieldType) (make : Making FieldType) : Making FieldType := do
  match find? (← get) form parts with
  | some type => return type
  | none =>
    let type ← make
    modify (⟨form, parts, type⟩ :: ·)
    return type

/-- One of several, written with brackets. -/
def union (items : List FieldType) : Making FieldType :=
  keep .union items (if items.isEmpty then throw .noMembers else return .unionOf items)

/-- A type that is nullable. -/
def optional (item : FieldType) : Making FieldType :=
  keep .optional [item] (union [item.asClass, .noneType])

/-- A list in the older notation. -/
def listOf (item : FieldType) : Making FieldType :=
  keep .list [item] (return .listOf item.asClass)

/-- One of two, written with bars.  A bar between nothing and nothing has no meaning,
and beside some types a bar makes a union with brackets. -/
def either : FieldType → FieldType → Making FieldType
  | .none, .none => throw .nothingAlone
  | first, second =>
    if first.prefersBrackets || second.prefersBrackets then union [first, second]
    else return first.either second

/-- One of several, written with bars. -/
def alternatives : List FieldType → Making FieldType
  | [] => throw .noAlternatives
  | item :: items => items.foldlM either item

end Register
end Schema
end GraphQL
