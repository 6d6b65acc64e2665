import GraphQL.Data.Record
import GraphQL.Request.Key

/-!
# Collections of keys

Dictionaries and sets are made one entry or item at a time.  A key that is there
already keeps its place and takes the new value.
-/

namespace GraphQL
namespace Key

/-- The entries of a dictionary with a value put under a key. -/
def insert (key value : Datum) (entries : List (Datum × Datum)) :
    Except Fault (List (Datum × Datum)) := do
  check key
  return Datum.insertEntry key value entries

/-- A set. -/
def set (items : List Datum) : Except Fault Datum := do
  checkAll items
  return .set (items.foldl (fun seen item =>
    if seen.any item.same then seen else seen ++ [item]) [])

end Key
end GraphQL
