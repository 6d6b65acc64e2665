import GraphQL.Proofs.Data.Record
import GraphQL.Proofs.Outcome
import GraphQL.Request.Literal

/-!
# Data as literals

A dictionary whose keys are texts becomes an object with a field for each entry.  A record
becomes an object in this way through its dictionary, so the object has the names under
which the fields with a value are sent.
-/

namespace GraphQL

open Outcome

namespace Datum

/-- The object field that an entry of a dictionary stands for. -/
def convertEntry (entry : Datum × Datum) : Except Fault Datum := do
  Node.objectField entry.1 (← convert entry.2)

theorem convertEntries_eq (entries : List (Datum × Datum)) :
    convertEntries entries = entries.mapM convertEntry := by
  induction entries with
  | nil => rfl
  | cons entry entries inductionHypothesis =>
    rw [convertEntries, inductionHypothesis, List.mapM_cons, convertEntry]
    simp only [bind_assoc]

/-- An entry stands for an object field under the name that its key is. -/
theorem exists_convertEntry
    {key item field : Datum}
    (made : convertEntry (key, item) = .ok field) :
    ∃ label value, key.asLabel? = some label ∧ convert item = .ok value ∧
      field = .objectField label value := by
  obtain ⟨value, converted, checked⟩ := bind_eq_ok_iff.mp made
  obtain ⟨label, named, rfl⟩ := map_eq_ok_iff.mp checked
  refine ⟨label, value, ?_, converted, rfl⟩
  unfold Node.checkName at named
  split at named
  case h_2 => cases named
  case h_1 isLabel =>
    split at named
    case isTrue => rw [isLabel, Except.ok.inj named]
    case isFalse => cases named

/-- An entry under a text stands for an object field of that name. -/
theorem convertEntry_text
    {key : String}
    {item field : Datum}
    (made : convertEntry (.text key, item) = .ok field) :
    ∃ value, convert item = .ok value ∧ field = .objectField (.plain key) value := by
  obtain ⟨label, value, isLabel, converted, rfl⟩ := exists_convertEntry made
  obtain rfl := Option.some.inj isLabel
  exact ⟨value, converted, rfl⟩

/-- Entries under texts stand for object fields of those names. -/
theorem convertEntries_named
    {parts : List (String × Datum)}
    {fields : List Datum}
    (made : convertEntries (parts.map fun part => (.text part.1, part.2)) = .ok fields) :
    ∃ named : List (String × Datum),
      fields = named.map (fun field => .objectField (.plain field.1) field.2) ∧
        named.map (·.1) = parts.map (·.1) := by
  rw [convertEntries_eq, mapM_eq_ok_iff] at made
  induction parts generalizing fields with
  | nil =>
    obtain rfl := List.forall₂_nil_left_iff.mp made
    exact ⟨[], rfl, rfl⟩
  | cons part parts inductionHypothesis =>
    obtain ⟨field, rest, madeField, madeRest, rfl⟩ := List.forall₂_cons_left_iff.mp made
    obtain ⟨value, -, rfl⟩ := convertEntry_text madeField
    obtain ⟨named, rfl, sameNames⟩ := inductionHypothesis madeRest
    exact ⟨(part.1, value) :: named, rfl, by rw [List.map_cons, List.map_cons, sameNames]⟩

/-- The literal of a record has the names that its fields with a value are sent under,
each once. -/
theorem toValue_model
    {serial : Nat}
    {fields : List (FieldName × Datum)}
    {literal : Datum}
    (made : toValue (.model serial fields) = .ok literal) :
    ∃ named : List (String × Datum),
      literal =
          .objectValue (.tuple (named.map fun field => .objectField (.plain field.1) field.2)) ∧
        named.map (·.1) = ((setFields fields).map (·.1)).eraseDups := by
  rw [toValue, unfold] at made
  split at made
  case isTrue =>
    rw [expand_model] at made
    obtain ⟨values, converted, checked⟩ := bind_eq_ok_iff.mp made
    obtain ⟨-, -, same⟩ := bind_eq_ok_iff.mp checked
    obtain rfl := Except.ok.inj same
    obtain ⟨named, rfl, sameNames⟩ := convertEntries_named converted
    refine ⟨named, rfl, ?_⟩
    rw [sameNames, List.map_map, ← Keyed.keys_merge]
    rfl
  case isFalse => cases made

end Datum
end GraphQL
