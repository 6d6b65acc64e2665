import GraphQL.Request.Fault

/-!
# Parts of data

What is asked of data that may not have it: a part by name, its elements, a place
among keys.
-/

namespace GraphQL
namespace Datum

/-- A part that data has to have. -/
def part (name : String) (owner : Datum) : Except Fault Datum :=
  match owner.part? name with
  | some part => .ok part
  | none => .error (.noPart owner.fullName name)

/-- Why something cannot be done with data that does not know how: a part of that
name is nothing that is done. -/
def cannot (action : String) (owner : Datum) : Fault :=
  match owner.part? action with
  | some part => .notCallable part.fullName
  | none => .noPart owner.fullName action

/-- The data that going through other data yields. -/
def elements (given : Datum) : Except Fault (List Datum) :=
  match given.elements? with
  | some items => .ok items
  | none => .error (.notIterable given.fullName)

end Datum
end GraphQL
