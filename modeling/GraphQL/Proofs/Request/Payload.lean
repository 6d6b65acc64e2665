import GraphQL.Proofs.Request.Json
import GraphQL.Proofs.Request.Literal
import GraphQL.Request.Payload

/-!
# Null in payloads

A null that is the value of a variable, or an item or value in a plain collection, is sent
as null.  What becomes of a record depends on where it stands.  A record that is the value
of a variable, or an item of a list that is, is sent without its null fields, and so are
all records inside of it.  A record that stands in a tuple, in a dictionary or in a list
within a list is sent with all of its fields, the null ones as null.
-/

namespace GraphQL

open Outcome

/-! ## Places -/

/-- A step down into data: to an item of a collection, or to what goes under a key. -/
inductive Step
  | item (index : Nat)
  | key (name : String)
  deriving DecidableEq, Repr

namespace JsonValue

/-- What is one step down in a JSON value. -/
def child? : JsonValue → Step → Option JsonValue
  | list items, .item index => items[index]?
  | object members, .key name => members.lookup name
  | _, _ => none

/-- What stands at a place in a JSON value. -/
def at? (value : JsonValue) : List Step → Option JsonValue
  | [] => some value
  | step :: place => (value.child? step).bind (at? · place)

end JsonValue

namespace Datum

/-- The data is sent as a key. -/
def hasKey (name : String) (key : Datum) : Bool :=
  match key.toKey with
  | .ok sent => sent = name
  | .error _ => false

/-- What goes under a key of a dictionary: the last of its entries whose key is sent so. -/
def valueUnder? (name : String) (entries : List (Datum × Datum)) : Option Datum :=
  (entries.reverse.find? (·.1.hasKey name)).map (·.2)

/-- What goes under a key of a record: the last of the fields that are sent under it. -/
def fieldUnder? (dropNulls : Bool) (name : String) (fields : List (FieldName × Datum)) :
    Option Datum :=
  ((sentFields dropNulls fields).reverse.find? (·.1.key = name)).map (·.2)

/-- What is one step down in data of which records have no null fields if `dropNulls`
says so. -/
def child? (dropNulls : Bool) : Datum → Step → Option Datum
  | list items, .item index | tuple items, .item index | set items, .item index => items[index]?
  | dict entries, .key name => valueUnder? name entries
  | model _ fields, .key name => fieldUnder? dropNulls name fields
  | _, _ => none

/-- What stands at a place in data. -/
def at? (dropNulls : Bool) (datum : Datum) : List Step → Option Datum
  | [] => some datum
  | step :: place => (datum.child? dropNulls step).bind (at? dropNulls · place)

/-! ## What is sent at a place -/

/-- What is one step down in data is sent one step down. -/
theorem exists_child
    {dropNulls : Bool}
    {datum part : Datum}
    {sent : JsonValue}
    {step : Step}
    (made : datum.toJson dropNulls = .ok sent)
    (there : datum.child? dropNulls step = some part) :
    ∃ result, sent.child? step = some result ∧ part.toJson dropNulls = .ok result := by
  cases step with
  | item index =>
    have inItems {items : List Datum} {values : List JsonValue}
        (madeItems : toJsonItems dropNulls items = .ok values)
        (found : items[index]? = some part) :
        ∃ result, values[index]? = some result ∧ part.toJson dropNulls = .ok result := by
      rw [toJsonItems_eq, mapM_eq_ok_iff] at madeItems
      obtain ⟨inside, rfl⟩ := List.getElem?_eq_some_iff.mp found
      have within : index < values.length := madeItems.length_eq ▸ inside
      exact ⟨values[index], List.getElem?_eq_getElem within, madeItems.get inside within⟩
    cases datum with
    | list items | tuple items | set items =>
      obtain ⟨values, madeItems, rfl⟩ := map_eq_ok_iff.mp made
      exact inItems madeItems there
    | _ => cases there
  | key name =>
    cases datum with
    | dict entries =>
      obtain ⟨members, madeEntries, rfl⟩ := map_eq_ok_iff.mp made
      obtain ⟨entry, found, rfl⟩ := Option.map_eq_some_iff.mp there
      rw [toJsonEntries_eq, mapM_eq_ok_iff] at madeEntries
      have sameKey (entry : Datum × Datum) (member : String × JsonValue)
          (makes : (do return (← entry.1.toKey, ← entry.2.toJson dropNulls)) = Except.ok member) :
          entry.1.hasKey name = true ↔ member.1 = name := by
        obtain ⟨key, sentKey, madeRest⟩ := bind_eq_ok_iff.mp makes
        simp [hasKey, sentKey, (entry_eq_ok_iff.mp madeRest).1]
      obtain ⟨member, last, makes⟩ := Keyed.last?_of_forall₂ madeEntries sameKey found
      obtain ⟨key, -, madeRest⟩ := bind_eq_ok_iff.mp makes
      refine ⟨member.2, ?_, (entry_eq_ok_iff.mp madeRest).2⟩
      rw [JsonValue.child?, JsonValue.mergeMembers_eq, Keyed.lookup_merge, last]
    | model serial fields =>
      obtain ⟨members, madeFields, rfl⟩ := map_eq_ok_iff.mp made
      obtain ⟨field, found, rfl⟩ := Option.map_eq_some_iff.mp there
      rw [toJsonFields_eq, mapM_eq_ok_iff] at madeFields
      have sameKey (field : FieldName × Datum) (member : String × JsonValue)
          (makes : (do return (field.1.key, ← field.2.toJson dropNulls)) = Except.ok member) :
          decide (field.1.key = name) = true ↔ member.1 = name := by
        rw [(entry_eq_ok_iff.mp makes).1, decide_eq_true_iff]
      obtain ⟨member, last, makes⟩ := Keyed.last?_of_forall₂ madeFields sameKey found
      refine ⟨member.2, ?_, (entry_eq_ok_iff.mp makes).2⟩
      rw [JsonValue.child?, JsonValue.mergeMembers_eq, Keyed.lookup_merge, last]
    | _ => cases there

/-- What stands at a place in data is sent at that place. -/
theorem exists_at
    {dropNulls : Bool}
    {datum part : Datum}
    {sent : JsonValue}
    {place : List Step}
    (made : datum.toJson dropNulls = .ok sent)
    (there : datum.at? dropNulls place = some part) :
    ∃ result, sent.at? place = some result ∧ part.toJson dropNulls = .ok result := by
  induction place generalizing datum sent with
  | nil =>
    obtain rfl := Option.some.inj there
    exact ⟨sent, rfl, made⟩
  | cons step place inductionHypothesis =>
    obtain ⟨child, isChild, further⟩ := Option.bind_eq_some_iff.mp there
    obtain ⟨sentChild, isSentChild, madeChild⟩ := exists_child made isChild
    obtain ⟨result, found, madePart⟩ := inductionHypothesis madeChild further
    refine ⟨result, ?_, madePart⟩
    rw [JsonValue.at?, isSentChild, Option.bind_some, found]

/-- The names that a record is sent with, each once. -/
def sentKeys (dropNulls : Bool) (fields : List (FieldName × Datum)) : List String :=
  ((sentFields dropNulls fields).map (·.1.key)).eraseDups

/-- A record is sent as an object of those names, with the null fields among them as
null. -/
theorem exists_object
    {dropNulls : Bool}
    {serial : Nat}
    {fields : List (FieldName × Datum)}
    {sent : JsonValue}
    (made : (model serial fields).toJson dropNulls = .ok sent) :
    ∃ members, sent = .object members ∧ members.map (·.1) = sentKeys dropNulls fields ∧
      ∀ name, fieldUnder? dropNulls name fields = some .null →
        members.lookup name = some .null := by
  obtain ⟨members, madeFields, same⟩ := map_eq_ok_iff.mp made
  refine ⟨JsonValue.mergeMembers members, same.symm, ?_, ?_⟩
  · rw [JsonValue.mergeMembers_eq, Keyed.keys_merge, keys_of_toJsonFields madeFields, sentKeys]
  · intro name isNull
    obtain ⟨result, found, sentNull⟩ := @exists_child _ _ _ _ (.key name) made isNull
    obtain rfl := Except.ok.inj sentNull
    rwa [← same] at found

end Datum

namespace Request

open Datum

/-! ## Values of variables -/

/-- The data is a record. -/
def isRecord : Datum → Bool
  | .model .. => true
  | _ => false

/-- At a place in the value of a variable, records are sent without their null fields: the
value is a record, or it is a list and the place is in a record among its items. -/
def dropsNulls : Datum → List Step → Bool
  | .list items, .item index :: _ => items[index]?.any isRecord
  | value, _ => isRecord value

/-- A record that was taken in is sent without its null fields, other data with all of
them. -/
theorem toJson_of_takeRecord
    {value taken : Datum}
    {sent : JsonValue}
    (took : takeRecord value = .ok taken)
    (made : taken.toJson false = .ok sent) :
    value.toJson (isRecord value) = .ok sent := by
  cases value with
  | model serial fields =>
    obtain ⟨json, madeFirst, rfl⟩ := map_eq_ok_iff.mp took
    rw [toJson_toDatum (settled_toJson madeFirst)] at made
    rw [isRecord, madeFirst, Except.ok.inj made]
  | _ =>
    obtain rfl := Except.ok.inj took
    exact made

/-- What stands at a place in the value of a variable is sent at that place, in the way of
the place. -/
theorem exists_at_of_takeValue
    {value taken part : Datum}
    {sent : JsonValue}
    {place : List Step}
    (took : takeValue value = .ok taken)
    (made : taken.toJson false = .ok sent)
    (there : value.at? (dropsNulls value place) place = some part)
    (noList : ∀ items, part ≠ .list items) :
    ∃ result, sent.at? place = some result ∧
      part.toJson (dropsNulls value place) = .ok result := by
  by_cases isList : ∃ items, value = .list items
  · obtain ⟨items, rfl⟩ := isList
    cases place with
    | nil => exact absurd (Option.some.inj there).symm (noList items)
    | cons step place =>
      cases step with
      | key name => cases there
      | item index =>
        obtain ⟨item, found, further⟩ := Option.bind_eq_some_iff.mp there
        obtain ⟨takenItems, tookItems, rfl⟩ := map_eq_ok_iff.mp took
        obtain ⟨values, madeItems, rfl⟩ := map_eq_ok_iff.mp made
        rw [mapM_eq_ok_iff] at tookItems
        rw [toJsonItems_eq, mapM_eq_ok_iff] at madeItems
        obtain ⟨inside, rfl⟩ := List.getElem?_eq_some_iff.mp found
        have within : index < takenItems.length := tookItems.length_eq ▸ inside
        have among : index < values.length := madeItems.length_eq ▸ within
        have madeItem :=
          toJson_of_takeRecord (tookItems.get inside within) (madeItems.get within among)
        have sameWay : dropsNulls (.list items) (.item index :: place) = isRecord items[index] := by
          rw [dropsNulls, List.getElem?_eq_getElem inside, Option.any_some]
        rw [sameWay] at further ⊢
        obtain ⟨result, foundResult, madePart⟩ := exists_at madeItem further
        refine ⟨result, ?_, madePart⟩
        rw [JsonValue.at?, JsonValue.child?, List.getElem?_eq_getElem among, Option.bind_some]
        exact foundResult
  · rw [takeValue] at took
    case x_1 => exact fun items same => isList ⟨items, same⟩
    have sameWay : dropsNulls value place = isRecord value := by
      rw [dropsNulls]
      exact fun items _ _ same _ => isList ⟨items, same⟩
    rw [sameWay] at there ⊢
    exact exists_at (toJson_of_takeRecord took made) there

/-! ## Whole payloads -/

/-- A request was made with a dictionary of values for its variables, from parts or for a
document. -/
inductive Takes (values : Datum) (request : Request) : Prop
  | parts (parts : List (String × Datum)) :
      (parts.find? fun part => part.1 = "variables").map (·.2) = some values →
      ofParts parts = .ok request →
      Takes values request
  | document (document name : Datum) (layout : Layout) :
      ofDocument document values name layout = .ok request →
      Takes values request

/-- A request that was made has passed the checks of all of its parts. -/
theorem Takes.exists_take
    {values : Datum}
    {request : Request}
    (takes : Takes values request) :
    ∃ query? name, take query? values name = .ok request := by
  cases takes with
  | parts parts isValues made =>
    change take _ ((Option.map _ (parts.find? _)).getD .null) _ = _ at made
    rw [isValues] at made
    exact ⟨_, _, made⟩
  | document document name layout made =>
    obtain ⟨-, -, made⟩ := bind_eq_ok_iff.mp made
    obtain ⟨query, -, made⟩ := bind_eq_ok_iff.mp made
    exact ⟨_, _, made⟩

/-- Values by the texts of their keys. -/
def named (entries : List (Datum × Datum)) : List (String × Datum) :=
  entries.map fun entry => (entry.1.asText?.getD "", entry.2)

theorem insertNamed_eq (name : String) (value : Datum) (entries : List (String × Datum)) :
    insertNamed name value entries = Keyed.put name value entries := by
  induction entries with
  | nil => rfl
  | cons entry entries inductionHypothesis =>
    rw [insertNamed, Keyed.put, inductionHypothesis]

/-- Keys that are texts raise no issue, and values go under the texts of their keys. -/
theorem checkEntries_of_texts
    {entries : List (Datum × Datum)}
    (texts : ∀ entry ∈ entries, entry.1.asText?.isSome = true) :
    checkEntries entries = .ok ([], some (Keyed.merge (named entries))) := by
  have checked : entries.mapM (fun entry => do return (← checkKey entry.1, entry.2)) =
      .ok (entries.map fun entry => (([], some (entry.1.asText?.getD "")), entry.2)) := by
    refine mapM_eq_ok_map fun entry present => ?_
    obtain ⟨text, isText⟩ := Option.isSome_iff_exists.mp (texts entry present)
    simp [checkKey, checkText, takeText, isText]
    rfl
  have noIssues : entries.flatMap (fun _ => ([] : List Issue)) = [] := by simp
  rw [checkEntries, checked, ok_bind, named, Keyed.merge, List.foldl_map, List.foldl_map,
    List.flatMap_map, noIssues]
  simp only [insertNamed_eq]
  rfl

/-- Values are taken in one by one, under the keys that they had. -/
theorem takeVariables_eq_ok_iff {entries taken : List (Datum × Datum)} :
    takeVariables entries = .ok taken ↔
      List.Forall₂ (fun entry result => result.1 = entry.1 ∧ takeValue entry.2 = .ok result.2)
        entries taken := by
  rw [takeVariables, mapM_eq_ok_iff]
  simp only [entry_eq_ok_iff]

theorem texts_of_takeVariables
    {entries taken : List (Datum × Datum)}
    (texts : ∀ entry ∈ entries, entry.1.asText?.isSome = true)
    (took : takeVariables entries = .ok taken) :
    ∀ entry ∈ taken, entry.1.asText?.isSome = true := by
  rw [takeVariables_eq_ok_iff] at took
  induction took with
  | nil => simp
  | cons makes _ inductionHypothesis =>
    rw [List.forall_mem_cons] at texts ⊢
    exact ⟨makes.1 ▸ texts.1, inductionHypothesis texts.2⟩

/-- A request is made with the values of its variables as they are taken in. -/
theorem exists_takeVariables
    {query? : Option Datum}
    {entries : List (Datum × Datum)}
    {name : Datum}
    {request : Request}
    (texts : ∀ entry ∈ entries, entry.1.asText?.isSome = true)
    (made : take query? (.dict entries) name = .ok request) :
    ∃ taken, takeVariables entries = .ok taken ∧
      request.variables? = some (Keyed.merge (named taken)) := by
  unfold take at made
  extract_lets rest at made
  obtain ⟨checkedQuery, made⟩ : ∃ checkedQuery, rest checkedQuery = .ok request := by
    cases query? with
    | none => exact ⟨([⟨["query"], .missing⟩], none), made⟩
    | some given =>
      obtain ⟨checkedQuery, -, made⟩ := bind_eq_ok_iff.mp made
      exact ⟨checkedQuery, made⟩
  obtain ⟨⟨issues, values?⟩, checked, made⟩ := bind_eq_ok_iff.mp made
  obtain ⟨⟨nameIssues, name?⟩, -, made⟩ := bind_eq_ok_iff.mp made
  dsimp only at made
  split at made
  case h_2 => cases made
  case h_1 _ query variables? name? _ _ =>
    obtain rfl := Except.ok.inj made
    cases took : takeVariables entries with
    | error fault =>
      rw [checkVariables, took] at checked
      cases fault <;> cases checked
    | ok taken =>
      rw [checkVariables, took] at checked
      obtain ⟨⟨_, named?⟩, checkedEntries, same⟩ := bind_eq_ok_iff.mp checked
      rw [checkEntries_of_texts (texts_of_takeVariables texts took)] at checkedEntries
      cases checkedEntries
      cases same
      exact ⟨taken, rfl, rfl⟩

/-- The values of variables are sent under their names. -/
theorem exists_sent
    {values : List (String × Datum)}
    {members : List (String × JsonValue)}
    {name : String}
    {value : Datum}
    (made : sentVariables values = .ok members)
    (found : values.lookup name = some value) :
    ∃ sent, members.lookup name = some sent ∧ value.toJson false = .ok sent := by
  rw [sentVariables, mapM_eq_ok_iff] at made
  rw [Keyed.lookup_eq_find?, Option.map_eq_some_iff] at found
  obtain ⟨entry, found, rfl⟩ := found
  have sameKey (entry : String × Datum) (member : String × JsonValue)
      (makes : (do return (entry.1, ← entry.2.toJson false)) = Except.ok member) :
      decide (entry.1 = name) = true ↔ member.1 = name := by
    rw [(entry_eq_ok_iff.mp makes).1, decide_eq_true_iff]
  obtain ⟨member, isMember, makes⟩ := Keyed.lookup_of_forall₂ made sameKey found
  exact ⟨member.2, isMember, (entry_eq_ok_iff.mp makes).2⟩

/-- A text as a key is sent as that text. -/
theorem hasKey_of_asText?
    {key : Datum}
    {text : String}
    (isText : key.asText? = some text)
    (name : String) :
    key.hasKey name = true ↔ text = name := by
  cases key with
  | scalar value =>
    cases value with
    | text value =>
      obtain rfl := Option.some.inj isText
      simp [hasKey, toKey, Scalar.toKey]
    | _ => cases isText
  | member family symbol value others =>
    cases value with
    | scalar value =>
      cases value with
      | text value =>
        simp only [asText?, Option.ite_none_right_eq_some, Option.some.injEq] at isText
        simp [hasKey, toKey, Scalar.toKey, isText.2]
      | _ => cases isText
    | _ => cases isText
  | _ => cases isText

/-- Values that are taken in under texts are named by those texts. -/
theorem forall₂_named
    {entries taken : List (Datum × Datum)}
    (texts : ∀ entry ∈ entries, entry.1.asText?.isSome = true)
    (took : takeVariables entries = .ok taken) :
    List.Forall₂
      (fun entry item => entry.1.asText? = some item.1 ∧ takeValue entry.2 = .ok item.2)
      entries (named taken) := by
  rw [takeVariables_eq_ok_iff] at took
  induction took with
  | nil => exact .nil
  | @cons entry result entries taken makes _ inductionHypothesis =>
    rw [List.forall_mem_cons] at texts
    obtain ⟨text, isText⟩ := Option.isSome_iff_exists.mp texts.1
    refine .cons ⟨?_, makes.2⟩ (inductionHypothesis texts.2)
    simp only [makes.1, isText, Option.getD_some]

/-- What is taken in for the last value under a name is sent under that name. -/
theorem exists_sent_of_takes
    {entries : List (Datum × Datum)}
    {request : Request}
    {payload : Payload}
    {name : String}
    {value : Datum}
    (texts : ∀ entry ∈ entries, entry.1.asText?.isSome = true)
    (takes : Takes (.dict entries) request)
    (made : request.toPayload = .ok payload)
    (given : valueUnder? name entries = some value) :
    ∃ members sent taken, payload.variables? = some members ∧ members.lookup name = some sent ∧
      takeValue value = .ok taken ∧ taken.toJson false = .ok sent := by
  obtain ⟨query?, operation, isTaken⟩ := takes.exists_take
  obtain ⟨taken, took, isVariables⟩ := exists_takeVariables texts isTaken
  obtain ⟨entry, isLast, rfl⟩ := Option.map_eq_some_iff.mp given
  have sameKey (entry : Datum × Datum) (item : String × Datum)
      (makes : entry.1.asText? = some item.1 ∧ takeValue entry.2 = .ok item.2) :
      entry.1.hasKey name = true ↔ item.1 = name := hasKey_of_asText? makes.1 name
  obtain ⟨item, isLastItem, -, tookValue⟩ :=
    Keyed.last?_of_forall₂ (forall₂_named texts took) sameKey isLast
  obtain ⟨members, madeMembers, same⟩ := bind_eq_ok_iff.mp made
  obtain rfl := Except.ok.inj same
  rw [isVariables, Option.getD_some] at madeMembers
  have madeVariables := mapError_eq_ok_iff.mp madeMembers
  rw [← Keyed.lookup_merge] at isLastItem
  obtain ⟨sent, found, madeValue⟩ := exists_sent madeVariables isLastItem
  refine ⟨members, sent, item.2, ?_, found, tookValue, madeValue⟩
  cases members with
  | nil => cases found
  | cons member members => rfl

/-- How nulls are sent.  A null in the value of a variable is sent as null.  A record whose
place is one where nulls are dropped is sent with the names of its fields that have a
value, which is how it is written as a literal.  Elsewhere it is sent with the names of all
of its fields, the null ones as null. -/
theorem payload_at
    {entries : List (Datum × Datum)}
    {request : Request}
    {payload : Payload}
    {name : String}
    {value part : Datum}
    {place : List Step}
    (texts : ∀ entry ∈ entries, entry.1.asText?.isSome = true)
    (takes : Takes (.dict entries) request)
    (made : request.toPayload = .ok payload)
    (given : valueUnder? name entries = some value)
    (there : value.at? (dropsNulls value place) place = some part) :
    ∃ members sent, payload.variables? = some members ∧ members.lookup name = some sent ∧
      (part = .null → sent.at? place = some .null) ∧
      ∀ serial fields, part = .model serial fields →
        (∃ object, sent.at? place = some (.object object) ∧
          object.map (·.1) = sentKeys (dropsNulls value place) fields ∧
          ∀ key, fieldUnder? (dropsNulls value place) key fields = some .null →
            object.lookup key = some .null) ∧
        ∀ literal, part.toValue = .ok literal → ∃ named : List (String × Datum),
          literal = .objectValue
              (.tuple (named.map fun field => .objectField (.plain field.1) field.2)) ∧
            named.map (·.1) = sentKeys true fields := by
  obtain ⟨members, sent, taken, isVariables, found, took, madeValue⟩ :=
    exists_sent_of_takes texts takes made given
  refine ⟨members, sent, isVariables, found, ?_, ?_⟩
  · rintro rfl
    obtain ⟨result, foundResult, same⟩ := exists_at_of_takeValue took madeValue there nofun
    obtain rfl := Except.ok.inj same
    exact foundResult
  · rintro serial fields rfl
    constructor
    · obtain ⟨result, foundResult, madePart⟩ := exists_at_of_takeValue took madeValue there nofun
      obtain ⟨object, rfl, keys, nulls⟩ := exists_object madePart
      exact ⟨object, foundResult, keys, nulls⟩
    · intro literal isLiteral
      obtain ⟨named, same, keys⟩ := toValue_model isLiteral
      refine ⟨named, same, ?_⟩
      rw [keys, setFields, List.map_map]
      rfl

/-- A record in a tuple is sent with its null field as null. -/
theorem payload_at_tuple :
    let record : Datum := .model 0 [(⟨"a", none⟩, .int 1), (⟨"b", none⟩, .null)]
    let values : Datum := .dict [(.text "x", .tuple [record])]
    let request : Request := ⟨"query \x7b a \x7d", some [("x", .tuple [record])], none⟩
    Takes values request ∧
      ∃ payload, request.toPayload = .ok payload ∧
        ∃ members sent, payload.variables? = some members ∧ members.lookup "x" = some sent ∧
          ∃ object, sent.at? [.item 0] = some (.object object) ∧
            object.map (·.1) = ["a", "b"] ∧ object.lookup "b" = some .null := by
  intro record values request
  have takes : Takes values request :=
    .parts [("query", .text "query \x7b a \x7d"), ("variables", values)] rfl rfl
  have texts : ∀ entry ∈ [(Datum.text "x", Datum.tuple [record])],
      entry.1.asText?.isSome = true := by
    simp [Datum.asText?]
  have there : (Datum.tuple [record]).at? (dropsNulls (.tuple [record]) [.item 0]) [.item 0] =
    some record := rfl
  obtain ⟨members, sent, isVariables, found, -, records⟩ :=
    @payload_at _ _ _ "x" _ _ _ texts takes rfl rfl there
  obtain ⟨⟨object, isObject, keys, nulls⟩, -⟩ := records 0 _ rfl
  exact ⟨takes, _, rfl, members, sent, isVariables, found, object, isObject, keys, nulls "b" rfl⟩

end Request
end GraphQL
