import GraphQL.Proofs.Data.Keyed
import GraphQL.Proofs.Outcome
import GraphQL.Request.Json

/-!
# Data as sent, once and again

The members of an object that is sent have different keys, and its numbers are finite.
So what has been turned into JSON once is data that is sent as just that.
-/

namespace GraphQL

open Outcome

namespace JsonValue

theorem insertMember_eq (key : String) (value : JsonValue) (members : List (String × JsonValue)) :
    insertMember key value members = Keyed.put key value members := by
  induction members with
  | nil => rfl
  | cons entry members inductionHypothesis =>
    rw [insertMember, Keyed.put, inductionHypothesis]

theorem mergeMembers_eq (members : List (String × JsonValue)) :
    mergeMembers members = Keyed.merge members := by
  simp only [mergeMembers, Keyed.merge, insertMember_eq]

mutual

/-- All numbers of a JSON value are finite, and members of one object have different
keys. -/
def Settled : JsonValue → Prop
  | float value => value.isFinite = true
  | list items => AllSettled items
  | object members => (members.map (·.1)).Nodup ∧ MembersSettled members
  | _ => True

/-- All JSON values of a list are settled. -/
def AllSettled : List JsonValue → Prop
  | [] => True
  | item :: items => Settled item ∧ AllSettled items

/-- The values of all members are settled. -/
def MembersSettled : List (String × JsonValue) → Prop
  | [] => True
  | (_, value) :: members => Settled value ∧ MembersSettled members

end

theorem membersSettled_iff {members : List (String × JsonValue)} :
    MembersSettled members ↔ ∀ entry ∈ members, entry.2.Settled := by
  induction members with
  | nil => simp [MembersSettled]
  | cons entry members inductionHypothesis =>
    rw [MembersSettled, inductionHypothesis, List.forall_mem_cons]

/-- Members that are put one after another are settled if each of them is. -/
theorem settled_object_mergeMembers
    {members : List (String × JsonValue)}
    (settled : MembersSettled members) :
    (object (mergeMembers members)).Settled := by
  rw [mergeMembers_eq]
  refine ⟨Keyed.nodup_keys_merge members, membersSettled_iff.mpr fun entry present => ?_⟩
  exact membersSettled_iff.mp settled entry (Keyed.mem_of_mem_merge present)

end JsonValue

namespace Datum

/-! ## Parts one by one -/

theorem toJsonItems_eq (dropNulls : Bool) (items : List Datum) :
    toJsonItems dropNulls items = items.mapM (toJson dropNulls) := by
  induction items with
  | nil => rfl
  | cons item items inductionHypothesis =>
    rw [toJsonItems, inductionHypothesis, List.mapM_cons]

theorem toJsonEntries_eq (dropNulls : Bool) (entries : List (Datum × Datum)) :
    toJsonEntries dropNulls entries = entries.mapM fun entry => do
      let key ← entry.1.toKey
      return (key, ← entry.2.toJson dropNulls) := by
  induction entries with
  | nil => rfl
  | cons entry entries inductionHypothesis =>
    rw [toJsonEntries, inductionHypothesis, List.mapM_cons]
    simp only [bind_assoc, pure_bind]

/-- The fields of a record that are sent. -/
def sentFields (dropNulls : Bool) (fields : List (FieldName × Datum)) :
    List (FieldName × Datum) :=
  if dropNulls then fields.filter (!·.2.isNull) else fields

theorem toJsonFields_eq (dropNulls : Bool) (fields : List (FieldName × Datum)) :
    toJsonFields dropNulls fields = (sentFields dropNulls fields).mapM fun field => do
      return (field.1.key, ← field.2.toJson dropNulls) := by
  induction fields with
  | nil => cases dropNulls <;> rfl
  | cons field fields inductionHypothesis =>
    rw [toJsonFields, inductionHypothesis]
    cases dropNulls with
    | false => simp [sentFields, List.mapM_cons]
    | true => cases isNull : field.2.isNull <;> simp [sentFields, isNull, List.mapM_cons]

/-- The fields of a record are sent under their names. -/
theorem keys_of_toJsonFields
    {dropNulls : Bool}
    {fields : List (FieldName × Datum)}
    {members : List (String × JsonValue)}
    (made : toJsonFields dropNulls fields = .ok members) :
    members.map (·.1) = (sentFields dropNulls fields).map (·.1.key) := by
  rw [toJsonFields_eq, mapM_eq_ok_iff] at made
  generalize sentFields dropNulls fields = fields at made
  induction made with
  | nil => rfl
  | cons makes _ inductionHypothesis =>
    rw [List.map_cons, List.map_cons, inductionHypothesis, (entry_eq_ok_iff.mp makes).1]

/-! ## JSON as data -/

mutual

/-- A settled JSON value is sent as it is. -/
theorem toJson_toDatum
    {value : JsonValue}
    (settled : value.Settled)
    (dropNulls : Bool) :
    value.toDatum.toJson dropNulls = .ok value := by
  match value with
  | .null | .bool _ | .int _ | .text _ => rfl
  | .float number =>
    rw [JsonValue.Settled] at settled
    rw [JsonValue.toDatum, toJson, Scalar.toJson, if_pos settled]
  | .list items =>
    rw [JsonValue.toDatum, toJson, toJsonItems_toData settled dropNulls]
    rfl
  | .object members =>
    obtain ⟨distinct, settledMembers⟩ := settled
    rw [JsonValue.toDatum, toJson, toJsonEntries_toEntries settledMembers dropNulls]
    rw [Except.map, JsonValue.mergeMembers_eq, Keyed.merge_of_nodup distinct]

theorem toJsonItems_toData
    {items : List JsonValue}
    (settled : JsonValue.AllSettled items)
    (dropNulls : Bool) :
    toJsonItems dropNulls (JsonValue.toData items) = .ok items := by
  match items with
  | [] => rfl
  | item :: items =>
    rw [JsonValue.toData, toJsonItems, toJson_toDatum settled.1 dropNulls,
      toJsonItems_toData settled.2 dropNulls]
    rfl

theorem toJsonEntries_toEntries
    {members : List (String × JsonValue)}
    (settled : JsonValue.MembersSettled members)
    (dropNulls : Bool) :
    toJsonEntries dropNulls (JsonValue.toEntries members) = .ok members := by
  match members with
  | [] => rfl
  | (key, value) :: members =>
    rw [JsonValue.toEntries, toJsonEntries, toJson_toDatum settled.1 dropNulls,
      toJsonEntries_toEntries settled.2 dropNulls]
    rfl

end

/-! ## Data as JSON -/

theorem settled_toJson_scalar
    {value : Scalar}
    {sent : JsonValue}
    (made : value.toJson = .ok sent) :
    sent.Settled := by
  cases value with
  | float number =>
    rw [Scalar.toJson] at made
    split at made
    case isTrue finite =>
      obtain rfl := Except.ok.inj made
      exact finite
    case isFalse =>
      obtain rfl := Except.ok.inj made
      trivial
  | bytes value =>
    obtain ⟨text, -, rfl⟩ := map_eq_ok_iff.mp made
    trivial
  | _ =>
    obtain rfl := Except.ok.inj made
    trivial

mutual

/-- Data is sent as settled JSON. -/
theorem settled_toJson
    {dropNulls : Bool}
    {datum : Datum}
    {sent : JsonValue}
    (made : datum.toJson dropNulls = .ok sent) :
    sent.Settled := by
  match datum with
  | .null | .nullValue | .namedType _ | .enumValue _ =>
    obtain rfl := Except.ok.inj made
    simp [JsonValue.Settled, JsonValue.MembersSettled]
  | .unset | .bare _ _ => cases made
  | .scalar value => exact settled_toJson_scalar made
  | .member _ _ value _ => exact @settled_toJson _ value _ made
  | .list items | .tuple items | .set items =>
    obtain ⟨values, madeItems, rfl⟩ := map_eq_ok_iff.mp made
    exact settled_toJsonItems madeItems
  | .dict entries =>
    obtain ⟨members, madeEntries, rfl⟩ := map_eq_ok_iff.mp made
    exact JsonValue.settled_object_mergeMembers (settled_toJsonEntries madeEntries)
  | .model _ fields =>
    obtain ⟨members, madeFields, rfl⟩ := map_eq_ok_iff.mp made
    exact JsonValue.settled_object_mergeMembers (settled_toJsonFields madeFields)
  | .listType part | .nonNullType part | .booleanValue part | .intValue part | .floatValue part
  | .stringValue part | .listValue part | .objectValue part | .document part
  | .objectField _ part | .argument _ part | .directive _ part | .fragmentSpread _ part =>
    obtain ⟨value, madePart, same⟩ := bind_eq_ok_iff.mp made
    obtain rfl := Except.ok.inj same
    simp [JsonValue.Settled, JsonValue.MembersSettled, settled_toJson madePart]
  | .variable _ first second | .printOptions first second | .fragmentDefinition _ _ first second =>
    obtain ⟨value, madeFirst, madeRest⟩ := bind_eq_ok_iff.mp made
    obtain ⟨other, madeSecond, same⟩ := bind_eq_ok_iff.mp madeRest
    obtain rfl := Except.ok.inj same
    simp [JsonValue.Settled, JsonValue.MembersSettled, settled_toJson madeFirst,
      settled_toJson madeSecond]
  | .inlineFragment condition? first second =>
    obtain ⟨value, madeFirst, madeRest⟩ := bind_eq_ok_iff.mp made
    obtain ⟨other, madeSecond, same⟩ := bind_eq_ok_iff.mp madeRest
    obtain rfl := Except.ok.inj same
    cases condition? <;>
      simp [JsonValue.Settled, JsonValue.MembersSettled, labelJson, settled_toJson madeFirst,
        settled_toJson madeSecond]
  | .field _ alias? first second third =>
    obtain ⟨value, madeFirst, madeRest⟩ := bind_eq_ok_iff.mp made
    obtain ⟨other, madeSecond, madeLast⟩ := bind_eq_ok_iff.mp madeRest
    obtain ⟨last, madeThird, same⟩ := bind_eq_ok_iff.mp madeLast
    obtain rfl := Except.ok.inj same
    cases alias? <;>
      simp [JsonValue.Settled, JsonValue.MembersSettled, labelJson, settled_toJson madeFirst,
        settled_toJson madeSecond, settled_toJson madeThird]
  | .operation first name? second third fourth =>
    obtain ⟨kind, madeFirst, madeRest⟩ := bind_eq_ok_iff.mp made
    obtain ⟨value, madeSecond, madeRest⟩ := bind_eq_ok_iff.mp madeRest
    obtain ⟨other, madeThird, madeLast⟩ := bind_eq_ok_iff.mp madeRest
    obtain ⟨last, madeFourth, same⟩ := bind_eq_ok_iff.mp madeLast
    obtain rfl := Except.ok.inj same
    cases name? <;>
      simp [JsonValue.Settled, JsonValue.MembersSettled, labelJson, settled_toJson madeFirst,
        settled_toJson madeSecond, settled_toJson madeThird, settled_toJson madeFourth]

theorem settled_toJsonItems
    {dropNulls : Bool}
    {items : List Datum}
    {sent : List JsonValue}
    (made : toJsonItems dropNulls items = .ok sent) :
    JsonValue.AllSettled sent := by
  match items with
  | [] =>
    obtain rfl := Except.ok.inj made
    trivial
  | item :: items =>
    obtain ⟨value, madeItem, madeRest⟩ := bind_eq_ok_iff.mp made
    obtain ⟨values, madeItems, same⟩ := bind_eq_ok_iff.mp madeRest
    obtain rfl := Except.ok.inj same
    exact ⟨settled_toJson madeItem, settled_toJsonItems madeItems⟩

theorem settled_toJsonEntries
    {dropNulls : Bool}
    {entries : List (Datum × Datum)}
    {sent : List (String × JsonValue)}
    (made : toJsonEntries dropNulls entries = .ok sent) :
    JsonValue.MembersSettled sent := by
  match entries with
  | [] =>
    obtain rfl := Except.ok.inj made
    trivial
  | (key, item) :: entries =>
    obtain ⟨text, -, madeRest⟩ := bind_eq_ok_iff.mp made
    obtain ⟨value, madeItem, madeRest⟩ := bind_eq_ok_iff.mp madeRest
    obtain ⟨members, madeEntries, same⟩ := bind_eq_ok_iff.mp madeRest
    obtain rfl := Except.ok.inj same
    exact ⟨settled_toJson madeItem, settled_toJsonEntries madeEntries⟩

theorem settled_toJsonFields
    {dropNulls : Bool}
    {fields : List (FieldName × Datum)}
    {sent : List (String × JsonValue)}
    (made : toJsonFields dropNulls fields = .ok sent) :
    JsonValue.MembersSettled sent := by
  match fields with
  | [] =>
    obtain rfl := Except.ok.inj made
    trivial
  | (label, item) :: fields =>
    rw [toJsonFields] at made
    split at made
    case isTrue => exact settled_toJsonFields made
    case isFalse =>
      obtain ⟨value, madeItem, madeRest⟩ := bind_eq_ok_iff.mp made
      obtain ⟨members, madeFields, same⟩ := bind_eq_ok_iff.mp madeRest
      obtain rfl := Except.ok.inj same
      exact ⟨settled_toJson madeItem, settled_toJsonFields madeFields⟩

end

end Datum
end GraphQL
