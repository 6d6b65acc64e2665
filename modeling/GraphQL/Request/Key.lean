import GraphQL.Request.Fault

/-!
# Keys

Dictionaries and sets hold keys, and only data that cannot change is a key:
collections other than tuples are not, and neither is what contains them.  A
signaling number is no key since it cannot be compared.
-/

namespace GraphQL
namespace Key

mutual

/-- Refuses data that cannot be a key of a dictionary or a member of a set. -/
def check : Datum → Except Fault Unit
  | .list _ => .error (.unhashable "list")
  | .set _ => .error (.unhashable "set")
  | .dict _ => .error (.unhashable "dict")
  | .model .. => .error (.unhashable "M")
  | .decimal value => if value.isSignaling then .error .signalingKey else .ok ()
  | .tuple items => checkAll items
  | .listType part | .nonNullType part | .booleanValue part | .intValue part | .floatValue part
  | .stringValue part | .listValue part | .objectField _ part | .objectValue part
  | .argument _ part | .directive _ part | .fragmentSpread _ part | .document part =>
    check part
  | .variable _ type default => do
    check type
    check default
  | .field _ _ arguments directives selections => do
    check arguments
    check directives
    check selections
  | .inlineFragment _ directives selections | .fragmentDefinition _ _ directives selections => do
    check directives
    check selections
  | .operation kind _ declared directives selections => do
    check kind
    check declared
    check directives
    check selections
  | .printOptions indent compact => do
    check indent
    check compact
  | _ => .ok ()

/-- Refuses items of which one cannot be a key. -/
def checkAll : List Datum → Except Fault Unit
  | [] => .ok ()
  | item :: items => do
    check item
    checkAll items

end

end Key
end GraphQL
