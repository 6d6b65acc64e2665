import GraphQL.Data.Record
import GraphQL.Proofs.Data.Keyed

/-!
# The dictionary of a record

The dictionary that a record stands for has the names that the fields with a value are
sent under, each once.
-/

namespace GraphQL
namespace Datum

theorem same_text (first second : String) :
    (text first).same (text second) = decide (first = second) := by
  rw [same, Scalar.same]
  · simp [Scalar.real?]
  · simp
  · simp

theorem insertEntry_text (key : String) (value : Datum) (named : List (String × Datum)) :
    insertEntry (.text key) value (named.map fun entry => (.text entry.1, entry.2)) =
      (Keyed.put key value named).map fun entry => (.text entry.1, entry.2) := by
  induction named with
  | nil => rfl
  | cons entry named inductionHypothesis =>
    rw [List.map_cons, insertEntry, inductionHypothesis, same_text, Keyed.put]
    by_cases same : entry.1 = key
    · simp [same]
    · simp [same]

theorem mergeEntries_text (named : List (String × Datum)) :
    mergeEntries (named.map fun entry => (.text entry.1, entry.2)) =
      (Keyed.merge named).map fun entry => (.text entry.1, entry.2) := by
  induction named using List.reverseRecOn with
  | nil => rfl
  | append_singleton named entry inductionHypothesis =>
    rw [mergeEntries] at inductionHypothesis
    rw [Keyed.merge_append_singleton, ← insertEntry_text, ← inductionHypothesis]
    simp [mergeEntries]

/-- The fields of a record that have a value, under the names they are sent under. -/
def setFields (fields : List (FieldName × Datum)) : List (String × Datum) :=
  (fields.filter (!·.2.isNull)).map fun field => (field.1.key, field.2)

theorem expandFields_eq (fields : List (FieldName × Datum)) :
    expandFields fields =
      (setFields fields).map fun entry => (.text entry.1, entry.2.expand) := by
  induction fields with
  | nil => rfl
  | cons field fields inductionHypothesis =>
    rw [expandFields, inductionHypothesis]
    cases isNull : field.2.isNull <;> simp [setFields, isNull]

/-- A record becomes the dictionary of its fields that have a value. -/
theorem expand_model (serial : Nat) (fields : List (FieldName × Datum)) :
    expand (.model serial fields) =
      ofParts ((Keyed.merge (setFields fields)).map fun entry => (entry.1, entry.2.expand)) := by
  rw [expand, expandFields_eq, Keyed.map_merge, ofParts, ← mergeEntries_text, List.map_map]
  rfl

end Datum
end GraphQL
