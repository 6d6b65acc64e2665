import GraphQL.Data.Equality

/-!
# All data is the same as itself

Data is compared part by part, and every comparison of parts holds of a part and itself.
Undefined numbers are no exception, since it is sameness and not equality that collections
and nodes compare their contents by.
-/

namespace GraphQL

open Number

theorem Number.Time.same_self (time : Time) : time.same time = true := by
  unfold Time.same
  cases time.offset? <;> simp

theorem Number.Moment.same_self (moment : Moment) : moment.same moment = true := by
  unfold Moment.same
  cases moment.time.offset? <;> simp

theorem Scalar.same_self (value : Scalar) : value.same value = true := by
  cases value <;> simp [same, Time.same_self, Moment.same_self]

namespace Datum

theorem sameText_self (name? : Option Label) : sameText name? name? = true := by
  simp [sameText]

mutual

/-- Data is the same as itself. -/
theorem same_self (datum : Datum) : datum.same datum = true := by
  match datum with
  | .null | .unset | .nullValue => simp [same]
  | .scalar value => simp [same, value.same_self]
  | .bare _ _ | .member _ _ _ _ | .model _ _ | .namedType _ | .enumValue _ => simp [same]
  | .list items | .tuple items => simp [same, sameItems_self items]
  | .set items => simp [same, sameSubset_of_subset items (List.Subset.refl items)]
  | .dict entries => simp [same, sameEntries_of_subset entries (List.Subset.refl entries)]
  | .listType part | .nonNullType part | .booleanValue part | .intValue part | .floatValue part
  | .stringValue part | .listValue part | .objectValue part | .document part
  | .objectField _ part | .argument _ part | .directive _ part | .fragmentSpread _ part =>
    simp [same, same_self part]
  | .variable _ first second | .inlineFragment _ first second | .printOptions first second
  | .fragmentDefinition _ _ first second =>
    simp [same, sameText_self, same_self first, same_self second]
  | .field _ _ first second third =>
    simp [same, sameText_self, same_self first, same_self second, same_self third]
  | .operation kind _ first second third =>
    simp [same, sameText_self, same_self kind, same_self first, same_self second,
      same_self third]

theorem sameItems_self (items : List Datum) : sameItems items items = true := by
  match items with
  | [] => simp [sameItems]
  | item :: items => simp [sameItems, same_self item, sameItems_self items]

/-- Data that is among other data has the same data there. -/
theorem sameSubset_of_subset (items : List Datum) {others : List Datum} (among : items ⊆ others) :
    sameSubset items others = true := by
  match items with
  | [] => simp [sameSubset]
  | item :: items =>
    obtain ⟨present, amongRest⟩ := List.cons_subset.mp among
    rw [sameSubset, sameSubset_of_subset items amongRest, Bool.and_true, List.any_eq_true]
    exact ⟨item, present, same_self item⟩

/-- Entries that are among others have the same entries there. -/
theorem sameEntries_of_subset
    (entries : List (Datum × Datum))
    {others : List (Datum × Datum)}
    (among : entries ⊆ others) :
    sameEntries entries others = true := by
  match entries with
  | [] => simp [sameEntries]
  | (key, value) :: entries =>
    obtain ⟨present, amongRest⟩ := List.cons_subset.mp among
    rw [sameEntries, sameEntries_of_subset entries amongRest, Bool.and_true, List.any_eq_true]
    refine ⟨(key, value), present, ?_⟩
    simp [same_self key, same_self value]

end

end Datum
end GraphQL
