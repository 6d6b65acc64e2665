import GraphQL.Proofs.Request.Conversion
import GraphQL.Proofs.Request.Sending

/-!
# Literals and values of variables

Data goes into a request as a literal or as the value of a variable.  Both ways keep its
structure, the order of its keys and its scalars, but a member of an enum is shown by its
name in a literal and sent by its value in a variable.  So the two agree exactly if every
member in the data has its name for a value.
-/

namespace GraphQL

open Outcome
open Text

/-! ## Numerals -/

theorem eq_of_repr
    {m n : Nat}
    (same : m.repr = n.repr) :
    m = n := by
  rw [Nat.repr_eq_ofList_toDigits, Nat.repr_eq_ofList_toDigits, String.ofList_inj] at same
  have readBack (k : Nat) : Nat.ofDigitChars 10 (Nat.toDigits 10 k) 0 = k :=
    Nat.ofDigitChars_toDigits (by decide) (by decide)
  rw [← readBack m, same, readBack]

theorem repr_ne_minus_append (m n : Nat) : m.repr ≠ "-" ++ n.repr := by
  intro same
  have sameChars : Nat.toDigits 10 m = '-' :: n.repr.toList := by
    rw [← String.toList_ofList (l := Nat.toDigits 10 m), ← Nat.repr_eq_ofList_toDigits, same,
      String.toList_append]
    rfl
  have isDigit : '-'.isDigit = true :=
    Nat.isDigit_of_mem_toDigits (by decide) (by decide) (sameChars ▸ List.mem_cons_self)
  cases isDigit

/-- Different whole numbers have different numerals. -/
theorem eq_of_toString
    {m n : Int}
    (same : toString m = toString n) :
    m = n := by
  rw [Int.toString_eq_repr, Int.toString_eq_repr, Int.repr_eq_if, Int.repr_eq_if] at same
  split at same
  case isTrue =>
    split at same
    case isTrue =>
      have sameSize := eq_of_repr same
      omega
    case isFalse => exact absurd same (repr_ne_minus_append _ _)
  case isFalse =>
    split at same
    case isTrue => exact absurd same.symm (repr_ne_minus_append _ _)
    case isFalse =>
      have sameSize := eq_of_repr ((String.append_right_inj "-").mp same)
      omega

/-! ## JSON forms of literals -/

/-- The literal has the JSON form: an enum symbol is a text there. -/
inductive Source.Value.IsJson : Source.Value → JsonValue → Prop
  | null : IsJson .null .null
  | boolean (value : Bool) : IsJson (.boolean value) (.bool value)
  | int (value : Int) : IsJson (.int (toString value)) (.int value)
  | string (text : String) (block : Bool) : IsJson (.string text block) (.text text)
  | enum (symbol : String) : IsJson (.enum symbol) (.text symbol)
  | list {items : List Source.Value} {values : List JsonValue} :
      items.length = values.length →
      (∀ item value, (item, value) ∈ items.zip values → IsJson item value) →
      IsJson (.list items) (.list values)
  | object {fields : List (String × Source.Value)} {members : List (String × JsonValue)} :
      fields.length = members.length →
      (∀ field member, (field, member) ∈ fields.zip members → field.1 = member.1) →
      (∀ field member, (field, member) ∈ fields.zip members → IsJson field.2 member.2) →
      IsJson (.object fields) (.object members)

namespace Source.Value

theorem isJson_int_iff {value : Int} {json : JsonValue} :
    IsJson (.int (toString value)) json ↔ json = .int value := by
  constructor
  · generalize isDigits : toString value = digits
    intro isJson
    cases isJson with
    | int other => rw [eq_of_toString isDigits]
  · rintro rfl
    exact .int value

theorem isJson_string_iff {text : String} {block : Bool} {json : JsonValue} :
    IsJson (.string text block) json ↔ json = .text text := by
  constructor
  · intro isJson
    cases isJson with
    | string => rfl
  · rintro rfl
    exact .string text block

theorem isJson_list_iff {items : List Source.Value} {json : JsonValue} :
    IsJson (.list items) json ↔
      ∃ values, json = .list values ∧ List.Forall₂ IsJson items values := by
  constructor
  · intro isJson
    cases isJson with
    | list sameLength areJson =>
      exact ⟨_, rfl, List.forall₂_iff_zip.mpr ⟨sameLength, fun present => areJson _ _ present⟩⟩
  · rintro ⟨values, rfl, areJson⟩
    obtain ⟨sameLength, areJson⟩ := List.forall₂_iff_zip.mp areJson
    exact .list sameLength fun _ _ => areJson

theorem isJson_object_iff {fields : List (String × Source.Value)} {json : JsonValue} :
    IsJson (.object fields) json ↔
      ∃ members, json = .object members ∧
        List.Forall₂ (fun field member => field.1 = member.1 ∧ IsJson field.2 member.2)
          fields members := by
  constructor
  · intro isJson
    cases isJson with
    | object sameLength sameNames areJson =>
      refine ⟨_, rfl, List.forall₂_iff_zip.mpr ⟨sameLength, fun present => ?_⟩⟩
      exact ⟨sameNames _ _ present, areJson _ _ present⟩
  · rintro ⟨members, rfl, areJson⟩
    obtain ⟨sameLength, areJson⟩ := List.forall₂_iff_zip.mp areJson
    exact .object sameLength (fun _ _ present => (areJson present).1) fun _ _ present =>
      (areJson present).2

end Source.Value

namespace Datum

/-! ## Data that goes both ways -/

/-- The data can be a literal and the value of a variable: it is put together by
collections and by dictionaries under names from null, truth values, whole numbers, texts,
identifiers and members of enums, which are called by symbols and have texts or whole
numbers for values. -/
inductive Input : Datum → Prop
  | null : Input .null
  | bool (value : Bool) : Input (.bool value)
  | int (value : Int) : Input (.int value)
  | text (value : String) : Input (.text value)
  | uuid (value : Number.Uuid) : Input (.scalar (.uuid value))
  | member
      {name : String}
      {value : Datum}
      (family : Family)
      (others : List (String × Datum)) :
      Name.IsName name →
      Name.isReserved name = false →
      ((∃ text, value = .text text) ∨ ∃ number, value = .int number) →
      Input (.member family name value others)
  | list {items : List Datum} :
      (∀ item ∈ items, Input item) →
      Input (.list items)
  | tuple {items : List Datum} :
      (∀ item ∈ items, Input item) →
      Input (.tuple items)
  | dict {entries : List (String × Datum)} :
      (∀ entry ∈ entries, Name.IsName entry.1) →
      (entries.map (·.1)).Nodup →
      (∀ entry ∈ entries, Input entry.2) →
      Input (.dict (entries.map fun entry => (.text entry.1, entry.2)))

mutual

/-- The JSON form of data, in which a member of an enum is what is made of its name and its
value. -/
def form (ofMember : String → Datum → JsonValue) : Datum → JsonValue
  | bool value => .bool value
  | int value => .int value
  | text value => .text value
  | scalar (.uuid value) => .text value.text
  | member _ name value _ => ofMember name value
  | list items | tuple items => .list (itemForms ofMember items)
  | dict entries => .object (entryForms ofMember entries)
  | _ => .null

/-- The JSON forms of items. -/
def itemForms (ofMember : String → Datum → JsonValue) : List Datum → List JsonValue
  | [] => []
  | item :: items => form ofMember item :: itemForms ofMember items

/-- The JSON forms of entries, each under its key. -/
def entryForms (ofMember : String → Datum → JsonValue) :
    List (Datum × Datum) → List (String × JsonValue)
  | [] => []
  | (key, item) :: entries =>
    (key.asText?.getD "", form ofMember item) :: entryForms ofMember entries

end

/-- A member by its name. -/
def byName (name : String) (_ : Datum) : JsonValue :=
  .text name

/-- A member by its value, if that is a text or a whole number. -/
def byValue (_ : String) : Datum → JsonValue
  | text value => .text value
  | int value => .int value
  | _ => .null

variable {ofMember : String → Datum → JsonValue}

theorem itemForms_eq (items : List Datum) :
    itemForms ofMember items = items.map (form ofMember) := by
  induction items with
  | nil => rfl
  | cons item items inductionHypothesis => rw [itemForms, inductionHypothesis, List.map_cons]

theorem entryForms_eq (entries : List (String × Datum)) :
    entryForms ofMember (entries.map fun entry => (.text entry.1, entry.2)) =
      entries.map fun entry => (entry.1, form ofMember entry.2) := by
  induction entries with
  | nil => rfl
  | cons entry entries inductionHypothesis =>
    rw [List.map_cons, entryForms, inductionHypothesis, List.map_cons]
    rfl

/-! ## What is sent -/

/-- Members that are put together from entries under different names stay as they are. -/
theorem toJsonEntries_of_named
    {entries : List (String × Datum)}
    (sent : ∀ entry ∈ entries, entry.2.toJson false = .ok (entry.2.form ofMember)) :
    toJsonEntries false (entries.map fun entry => (.text entry.1, entry.2)) =
      .ok (entries.map fun entry => (entry.1, entry.2.form ofMember)) := by
  rw [toJsonEntries_eq, mapM_eq_ok_iff, List.forall₂_map_left_iff, List.forall₂_map_right_iff,
    List.forall₂_same]
  intro entry present
  change (do return (entry.1, ← entry.2.toJson false)) = _
  rw [sent entry present]
  rfl

/-- Data is sent in the JSON form in which members stand by their values. -/
theorem toJson_of_input
    {datum : Datum}
    (input : Input datum) :
    datum.toJson false = .ok (datum.form byValue) := by
  induction input with
  | null | bool | int | text | uuid => rfl
  | member family others isName notReserved isPlain =>
    rcases isPlain with ⟨text, rfl⟩ | ⟨number, rfl⟩
    · rfl
    · rfl
  | @list items _ inductionHypothesis | @tuple items _ inductionHypothesis =>
    have sentItems : toJsonItems false items = .ok (items.map (form byValue)) := by
      rw [toJsonItems_eq]
      exact mapM_eq_ok_map inductionHypothesis
    rw [toJson, sentItems, form, itemForms_eq]
    rfl
  | @dict entries _ distinct _ inductionHypothesis =>
    have distinctKeys :
        ((entries.map fun entry => (entry.1, entry.2.form byValue)).map (·.1)).Nodup := by
      rwa [List.map_map]
    rw [toJson, toJsonEntries_of_named inductionHypothesis, form, entryForms_eq, Except.map,
      JsonValue.mergeMembers_eq, Keyed.merge_of_nodup distinctKeys]

/-- Data is taken in as it is. -/
theorem takeValue_of_input
    {datum : Datum}
    (input : Input datum) :
    Request.takeValue datum = .ok datum := by
  have takeRecord {item : Datum} (input : Input item) : Request.takeRecord item = .ok item := by
    cases input <;> rfl
  cases input with
  | @list items areInputs =>
    have tookItems : items.mapM Request.takeRecord = .ok (items.map id) :=
      mapM_eq_ok_map fun item present => takeRecord (areInputs item present)
    rw [Request.takeValue, tookItems, List.map_id]
    rfl
  | _ => rfl

/-! ## What is written -/

theorem unfold_of_input
    {datum : Datum}
    (input : Input datum) :
    datum.unfold = datum := by
  induction input with
  | null | bool | int | text | uuid | member => rfl
  | @list items _ inductionHypothesis | @tuple items _ inductionHypothesis =>
    rw [unfold, unfoldItems_eq, List.map_congr_left inductionHypothesis, List.map_id']
  | @dict entries _ _ _ inductionHypothesis =>
    rw [unfold, unfoldEntries_eq, List.map_map]
    congr 1
    refine List.map_congr_left fun entry present => ?_
    rw [Function.comp_apply, inductionHypothesis entry present]

theorem noLineFeed_of_isName
    {name : String}
    (isName : Name.IsName name) :
    '\n' ∉ name.toList := by
  intro present
  unfold Name.IsName at isName
  cases chars : name.toList with
  | nil => simp [chars] at present
  | cons first rest =>
    rw [chars, Name.isName, Bool.and_eq_true, List.all_eq_true] at isName
    rw [chars, List.mem_cons] at present
    have continues : Name.isContinue '\n' = true := by
      rcases present with isFirst | isLater
      · exact Name.isContinue_of_isStart (isFirst ▸ isName.1)
      · exact isName.2 _ isLater
    rw [Name.not_isContinue_lineFeed] at continues
    cases continues

theorem allRegular_iff {items : List Datum} :
    AllRegular items ↔ ∀ item ∈ items, item.Regular := by
  induction items with
  | nil => simp [AllRegular]
  | cons item items inductionHypothesis =>
    rw [AllRegular, inductionHypothesis, List.forall_mem_cons]

theorem entriesRegular_of_named
    {entries : List (String × Datum)}
    (areNames : ∀ entry ∈ entries, Name.IsName entry.1)
    (areRegular : ∀ entry ∈ entries, entry.2.Regular) :
    EntriesRegular (entries.map fun entry => (.text entry.1, entry.2)) := by
  induction entries with
  | nil => trivial
  | cons entry entries inductionHypothesis =>
    rw [List.forall_mem_cons] at areNames areRegular
    refine ⟨?key, areRegular.1, inductionHypothesis areNames.2 areRegular.2⟩
    rintro name same
    obtain rfl : entry.1 = name := Option.some.inj same
    exact ⟨rfl, noLineFeed_of_isName areNames.1⟩

theorem regular_of_input
    {datum : Datum}
    (input : Input datum) :
    datum.Regular := by
  induction input with
  | null | bool | int | text | uuid => trivial
  | member _ _ isName _ _ => exact noLineFeed_of_isName isName
  | list _ inductionHypothesis | tuple _ inductionHypothesis =>
    exact allRegular_iff.mpr inductionHypothesis
  | @dict entries areNames distinct _ inductionHypothesis =>
    refine ⟨?distinct, entriesRegular_of_named areNames inductionHypothesis⟩
    have sameKeys : (entries.map fun entry => (text entry.1, entry.2)).filterMap (·.1.asText?) =
        entries.map (·.1) := by
      rw [List.filterMap_map]
      change entries.filterMap (some ∘ (·.1)) = _
      rw [List.filterMap_eq_map]
    rwa [sameKeys]

/-- No visit to the data stops its conversion. -/
theorem offends_of_input
    {datum : Datum}
    (input : Input datum) :
    ∀ visit ∈ datum.visits, visit.offends = false := by
  induction input with
  | null | bool | int | text | uuid => exact List.forall_mem_singleton.mpr rfl
  | member _ _ isName notReserved _ =>
    refine List.forall_mem_singleton.mpr ?_
    rw [Visit.offends, decide_eq_true isName, notReserved]
    rfl
  | @list items _ inductionHypothesis | @tuple items _ inductionHypothesis =>
    rw [visits, visitsOfItems_eq]
    intro visit present
    obtain ⟨item, isItem, present⟩ := List.mem_flatMap.mp present
    exact inductionHypothesis item isItem visit present
  | @dict entries areNames _ _ inductionHypothesis =>
    rw [visits, visitsOfEntries_eq, List.flatMap_map]
    intro visit present
    obtain ⟨entry, isEntry, present⟩ := List.mem_flatMap.mp present
    rcases List.mem_append.mp present with ofItem | ofKey
    · exact inductionHypothesis entry isEntry visit ofItem
    · obtain rfl := List.mem_singleton.mp ofKey
      rw [Visit.offends, decide_eq_true (areNames entry isEntry)]
      rfl

theorem entryLiterals_eq (entries : List (String × Datum)) :
    entryLiterals (entries.map fun entry => (.text entry.1, entry.2)) =
      entries.map fun entry => (entry.1, entry.2.literal) := by
  induction entries with
  | nil => rfl
  | cons entry entries inductionHypothesis =>
    rw [List.map_cons, entryLiterals, inductionHypothesis, List.map_cons]
    rfl

/-! ## What agrees -/

/-- What is related to each item in just one way is so to a list of items. -/
theorem forall₂_iff_eq_map
    {α β : Type}
    {related : α → β → Prop}
    {image : α → β}
    {items : List α}
    (functional : ∀ item ∈ items, ∀ value, related item value ↔ value = image item)
    (values : List β) :
    List.Forall₂ related items values ↔ values = items.map image := by
  constructor
  · intro areRelated
    induction areRelated with
    | nil => rfl
    | cons isRelated _ inductionHypothesis =>
      rw [List.forall_mem_cons] at functional
      rw [List.map_cons, (functional.1 _).mp isRelated, ← inductionHypothesis functional.2]
  · rintro rfl
    rw [List.forall₂_map_right_iff, List.forall₂_same]
    exact fun item present => (functional item present _).mpr rfl

/-- The only JSON form of the literal of data is the one in which members stand by their
names. -/
theorem isJson_literal_iff
    {datum : Datum}
    (input : Input datum)
    (json : JsonValue) :
    datum.literal.IsJson json ↔ json = datum.form byName := by
  induction input generalizing json with
  | null =>
    constructor
    · rintro ⟨⟩
      rfl
    · rintro rfl
      exact .null
  | bool value =>
    constructor
    · rintro ⟨⟩
      rfl
    · rintro rfl
      exact .boolean value
  | int value => exact Source.Value.isJson_int_iff
  | text value => exact Source.Value.isJson_string_iff
  | uuid value => exact Source.Value.isJson_string_iff
  | @member name =>
    constructor
    · rintro ⟨⟩
      rfl
    · rintro rfl
      exact .enum name
  | @list items _ inductionHypothesis | @tuple items _ inductionHypothesis =>
    rw [literal, itemLiterals_eq, Source.Value.isJson_list_iff, form, itemForms_eq]
    simp only [List.forall₂_map_left_iff, forall₂_iff_eq_map inductionHypothesis]
    constructor
    · rintro ⟨_, rfl, rfl⟩
      rfl
    · rintro rfl
      exact ⟨_, rfl, rfl⟩
  | @dict entries _ _ _ inductionHypothesis =>
    have functional : ∀ entry ∈ entries, ∀ member : String × JsonValue,
        (entry.1 = member.1 ∧ entry.2.literal.IsJson member.2) ↔
          member = (entry.1, entry.2.form byName) := by
      intro entry present member
      rw [inductionHypothesis entry present, Prod.ext_iff, @eq_comm _ entry.1]
    rw [literal, entryLiterals_eq, Source.Value.isJson_object_iff, form, entryForms_eq]
    simp only [List.forall₂_map_left_iff, forall₂_iff_eq_map functional]
    constructor
    · rintro ⟨_, rfl, rfl⟩
      rfl
    · rintro rfl
      exact ⟨_, rfl, rfl⟩

/-- A visit to a member finds that its value is the text of its name. -/
def Visit.Agrees : Visit → Prop
  | thing (.member _ name value _) => value = .text name
  | _ => True

/-- The two forms of data are the same exactly if every member in it has the text of its
name for a value. -/
theorem form_eq_iff
    {datum : Datum}
    (input : Input datum) :
    datum.form byValue = datum.form byName ↔ ∀ visit ∈ datum.visits, visit.Agrees := by
  induction input with
  | null | bool | int | text | uuid =>
    exact iff_of_true rfl (List.forall_mem_singleton.mpr trivial)
  | @member name _ _ _ _ _ isPlain =>
    refine Iff.trans ?_ List.forall_mem_singleton.symm
    rw [Visit.Agrees]
    rcases isPlain with ⟨value, rfl⟩ | ⟨value, rfl⟩
    · simp [form, byValue, byName]
    · simp [form, byValue, byName]
  | @list items _ inductionHypothesis | @tuple items _ inductionHypothesis =>
    rw [form, form, itemForms_eq, itemForms_eq, visits, visitsOfItems_eq, JsonValue.list.injEq,
      List.map_inj_left]
    simp only [List.mem_flatMap, forall_exists_index, and_imp]
    constructor
    · intro same visit item present
      exact (inductionHypothesis item present).mp (same item present) visit
    · intro agree item present
      exact (inductionHypothesis item present).mpr fun visit => agree visit item present
  | @dict entries _ _ _ inductionHypothesis =>
    rw [form, form, entryForms_eq, entryForms_eq, visits, visitsOfEntries_eq, List.flatMap_map,
      JsonValue.object.injEq, List.map_inj_left]
    simp only [List.mem_flatMap, forall_exists_index, and_imp, Prod.mk.injEq, true_and]
    constructor
    · intro same visit entry present among
      rcases List.mem_append.mp among with ofItem | ofKey
      · exact (inductionHypothesis entry present).mp (same entry present) visit ofItem
      · obtain rfl := List.mem_singleton.mp ofKey
        trivial
    · intro agree entry present
      refine (inductionHypothesis entry present).mpr fun visit among => ?_
      exact agree visit entry present (List.mem_append_left _ among)

/-- Data is converted to a value that stands for it. -/
theorem exists_value_of_input
    {datum : Datum}
    (input : Input datum) :
    ∃ value, datum.toValue = .ok value ∧ StandsFor datum value := by
  have fine : datum.visits.find? Visit.offends = none := by
    rw [List.find?_eq_none]
    intro visit present
    rw [offends_of_input input visit present]
    exact Bool.false_ne_true
  obtain ⟨value, converted, stands⟩ := (follows_convert (regular_of_input input)).fine fine
  refine ⟨value, ?_, stands⟩
  rw [toValue, unfold_of_input input, converted]

end Datum

namespace Request

open Datum

/-- A request whose values can be sent has a payload. -/
theorem exists_toPayload_of_takes
    {entries : List (Datum × Datum)}
    {request : Request}
    (texts : ∀ entry ∈ entries, entry.1.asText?.isSome = true)
    (distinct : (entries.map (·.1.asText?)).Nodup)
    (sends : ∀ entry ∈ entries, ∃ sent, entry.2.toJson false = .ok sent)
    (takes : Takes (.dict entries) request) :
    ∃ payload, request.toPayload = .ok payload := by
  obtain ⟨query?, operation, isTaken⟩ := takes.exists_take
  obtain ⟨taken, took, isVariables⟩ := exists_takeVariables texts isTaken
  obtain ⟨other, members, tookToo, made, -⟩ := exists_sentVariables texts sends
  obtain rfl := Except.ok.inj (took.symm.trans tookToo)
  rw [Keyed.merge_of_nodup (nodup_named texts distinct took)] at isVariables
  have sent : sentVariables (request.variables?.getD []) = .ok members := by
    rw [isVariables, Option.getD_some, made]
  rw [toPayload, sent]
  exact ⟨_, rfl⟩

/-- Data is converted to a literal and sent as the value of a variable.  The JSON form of the
literal has the names of members, and what is sent has their values.  So what is sent is the
JSON form of the literal exactly if every member in the data has the text of its name for a
value.  The literal is read back from its text, which is there unless a whole number in the
data is too long. -/
theorem variable_exact
    {entries : List (Datum × Datum)}
    {name : String}
    {datum : Datum}
    (texts : ∀ entry ∈ entries, entry.1.asText?.isSome = true)
    (distinct : (entries.map (·.1.asText?)).Nodup)
    (sends : ∀ entry ∈ entries, ∃ sent, entry.2.toJson false = .ok sent)
    (held : valueUnder? name entries = some datum)
    (input : Input datum) :
    ∃ value,
      datum.toValue = .ok value ∧
      ((∀ visit ∈ datum.visits, visit.isLong = false) →
        ∃ text, value.valueText = .ok text ∧
          Source.Value.parse false text = .ok (Mirror.value value)) ∧
      ((∃ visit ∈ datum.visits, visit.isLong = true) →
        value.valueText = .error .tooLongToWrite) ∧
      (∀ json, (Mirror.value value).IsJson json ↔ json = datum.form byName) ∧
      (∀ query, ∃ request,
        ofParts [("query", .text query), ("variables", .dict entries)] = .ok request) ∧
      ∀ request, Takes (.dict entries) request →
        ∃ payload members sent,
          request.toPayload = .ok payload ∧
          payload.variables? = some members ∧
          members.lookup name = some sent ∧
          sent = datum.form byValue ∧
          ((Mirror.value value).IsJson sent ↔ ∀ visit ∈ datum.visits, visit.Agrees) := by
  obtain ⟨value, converted, stands⟩ := exists_value_of_input input
  obtain ⟨read, unwritten⟩ := stands.text_exact
  refine ⟨value, converted, ?_⟩
  rw [stands.mirror]
  refine ⟨read, unwritten, isJson_literal_iff input, ?made, ?sent⟩
  case made =>
    intro query
    obtain ⟨taken, -, took, -, -⟩ := exists_sentVariables texts sends
    exact ⟨_, @take_eq (some entries) taken texts distinct took query none⟩
  case sent =>
    intro request takes
    obtain ⟨payload, isPayload⟩ := exists_toPayload_of_takes texts distinct sends takes
    obtain ⟨members, sent, taken, areMembers, found, took, made⟩ :=
      exists_sent_of_takes texts takes isPayload held
    obtain rfl := Except.ok.inj ((takeValue_of_input input).symm.trans took)
    obtain rfl := Except.ok.inj ((toJson_of_input input).symm.trans made)
    refine ⟨payload, members, _, isPayload, areMembers, found, rfl, ?_⟩
    rw [isJson_literal_iff input, form_eq_iff input]

/-- A member whose value is another text than its name is written by the name and sent by
the value. -/
theorem variable_exact_member :
    let color : Datum := .member (.custom .plain 0) "RED" (.text "r") []
    let request : Request := ⟨"query \x7b a \x7d", some [("c", color)], none⟩
    ∃ value text literal payload members sent,
      color.toValue = .ok value ∧
      value.valueText = .ok text ∧
      Source.Value.parse false text = .ok literal ∧
      request.toPayload = .ok payload ∧
      payload.variables? = some members ∧
      members.lookup "c" = some sent ∧
      literal.IsJson (.text "RED") ∧
      sent = .text "r" ∧
      ¬literal.IsJson sent := by
  intro color request
  have texts : ∀ entry ∈ [(Datum.text "c", color)], entry.1.asText?.isSome = true := by
    simp [asText?]
  have sends : ∀ entry ∈ [(Datum.text "c", color)],
      ∃ sent, entry.2.toJson false = .ok sent := by
    simp [color, toJson, Scalar.toJson]
  have input : Input color :=
    .member _ _ (show Text.Name.IsName "RED" by decide) (by decide) (.inl ⟨"r", rfl⟩)
  obtain ⟨value, converted, read, -, isJson, -, sending⟩ :=
    @variable_exact _ "c" _ texts (by simp) sends rfl input
  obtain ⟨text, written, parsed⟩ := read (List.forall_mem_singleton.mpr rfl)
  obtain ⟨payload, members, sent, isPayload, areMembers, found, isSent, agrees⟩ :=
    sending request (.parts [("query", .text "query \x7b a \x7d"),
      ("variables", .dict [(.text "c", color)])] rfl rfl)
  refine ⟨value, text, _, payload, members, sent, converted, written, parsed, isPayload,
    areMembers, found, (isJson _).mpr rfl, isSent, fun same => ?_⟩
  have agree : (Visit.thing color).Agrees := agrees.mp same _ List.mem_cons_self
  simp [Visit.Agrees, color] at agree

end Request
end GraphQL
