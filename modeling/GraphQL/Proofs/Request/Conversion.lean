import GraphQL.Proofs.Request.Gate
import GraphQL.Proofs.Request.Literal
import GraphQL.Proofs.Request.Unprintable

/-!
# What data is converted to

Data is converted part by part, and each part is visited once: items in their order, and
the value of an entry before its key.  The conversion gives a value if no visit offends,
and otherwise stops with the fault of the first visit that does.  The value is written as
the literal of the shape that the data has, unless a visit finds a whole number of more
digits than are written.

All of this is said of data without records.  A record is converted as the dictionary
that it becomes, so data that no literal stands for is converted too if a record turns it
into a dictionary.
-/

namespace GraphQL

open Outcome
open Text

/-! ## Visits -/

namespace Datum

/-- A whole number of more digits than are written has a place in the text. -/
def hasLong (given : Datum) : Bool :=
  given.nodes.any isLongWhole

/-- Every number is finite and every node is of some kind, though there may be whole numbers
of more digits than are written. -/
def Sound (given : Datum) : Prop :=
  ∀ node ∈ given.nodes, node.isUnprintable = true → node.isLongWhole = true

/-- What is looked at in a conversion: data that is not put together from items or
entries, and the keys of entries. -/
inductive Visit
  | thing (datum : Datum)
  | key (given : Datum)

namespace Visit

/-- The visit stops the conversion: of data that no literal stands for, of an enum member
whose name is no symbol, or of a key that is no name. -/
def offends : Visit → Bool
  | thing .null => false
  | thing (.scalar (.complex ..)) | thing (.scalar (.bytes _)) => true
  | thing (.scalar _) => false
  | thing (.member _ name _ _) => !decide (Name.IsName name) || Name.isReserved name
  | thing datum => !datum.isValue
  | key (.text name) => !decide (Name.IsName name)
  | key _ => true

/-- The fault of a visit that offends.  A record is still there where it could not be
turned into a dictionary. -/
def fault : Visit → Fault
  | thing (.member _ name _ _) =>
    if Name.IsName name then .reservedSymbol (.plain name)
    else .invalidName "enum value" (.text name)
  | thing (.model ..) => .unhashable "dict"
  | thing datum => (Fault.unsupportedValue datum).raised
  | key given => (Fault.invalidName "input field name" given).raised

/-- What the visit finds has a whole number of more digits than are written. -/
def isLong : Visit → Bool
  | thing (.scalar value) => value.showsLong
  | thing datum => datum.hasLong
  | key _ => false

end Visit

mutual

/-- The visits to data in their order. -/
def visits : Datum → List Visit
  | list items | tuple items => visitsOfItems items
  | dict entries => visitsOfEntries entries
  | datum => [.thing datum]

/-- The visits to items. -/
def visitsOfItems : List Datum → List Visit
  | [] => []
  | item :: items => visits item ++ visitsOfItems items

/-- The visits to entries, to the value of each before its key. -/
def visitsOfEntries : List (Datum × Datum) → List Visit
  | [] => []
  | (key, item) :: entries => visits item ++ .key key :: visitsOfEntries entries

end

/-! ## Literals -/

end Datum

/-- The number has a numeral if it is one. -/
def Scalar.Finite : Scalar → Prop
  | float value => value.isFinite = true
  | decimal value => value.isFinite = true
  | _ => True

/-- The literal of a scalar. -/
def Scalar.literal : Scalar → Source.Value
  | bool value => .boolean value
  | int value => .int (toString value)
  | float value => .float ((Numeral.fractional (.float value)).toOption.getD "")
  | decimal value => .float ((Numeral.fractional (.decimal value)).toOption.getD "")
  | text value => .string value false
  | uuid value => .string value.text false
  | date value => .string value.text false
  | time value => .string value.text false
  | moment value => .string value.text false
  | complex .. | bytes _ => .null

namespace Datum

mutual

/-- The literal of the shape that data has. -/
def literal : Datum → Source.Value
  | null => .null
  | scalar value => value.literal
  | member _ name _ _ => .enum name
  | list items | tuple items => .list (itemLiterals items)
  | dict entries => .object (entryLiterals entries)
  | datum => Mirror.value datum

/-- The literals of items. -/
def itemLiterals : List Datum → List Source.Value
  | [] => []
  | item :: items => literal item :: itemLiterals items

/-- The literals of entries, each with its key. -/
def entryLiterals : List (Datum × Datum) → List (String × Source.Value)
  | [] => []
  | (key, item) :: entries => (key.asText?.getD "", literal item) :: entryLiterals entries

end

mutual

/-- The data is in order, though it need not be convertible: numbers are finite, no key
and no name of an enum member has a line feed in it, keys that count as texts are texts,
none of them twice, and values are typed and sound. -/
def Regular : Datum → Prop
  | null => True
  | scalar value => value.Finite
  | member _ name _ _ => '\n' ∉ name.toList
  | list items | tuple items => AllRegular items
  | dict entries => (entries.filterMap (·.1.asText?)).Nodup ∧ EntriesRegular entries
  | datum => datum.isValue = true → Typed.Value Label.IsWord datum ∧ datum.Sound

/-- All items are in order. -/
def AllRegular : List Datum → Prop
  | [] => True
  | item :: items => Regular item ∧ AllRegular items

/-- All entries are in order. -/
def EntriesRegular : List (Datum × Datum) → Prop
  | [] => True
  | (key, item) :: entries =>
    (∀ text, key.asText? = some text → key = .text text ∧ '\n' ∉ text.toList) ∧
      Regular item ∧ EntriesRegular entries

end

/-- The value is well formed, and is written as the literal of the data. -/
structure StandsFor (given value : Datum) : Prop where
  /-- The value is typed. -/
  typed : Typed.Value Label.IsWord value
  /-- The value is sound. -/
  sound : value.Sound
  /-- The value has the long numbers that are found in the data. -/
  long : value.hasLong = given.visits.any Visit.isLong
  /-- The value has the shape of the data. -/
  mirror : Mirror.value value = given.literal

end Datum

/-! ## Following the visits -/

open Datum (Visit)

/-- The outcome is what the visits say: a good result if none offends, and otherwise the
fault of the first that does. -/
structure Follows
    {α : Type}
    (outcome : Except Fault α)
    (visits : List Visit)
    (good : α → Prop) : Prop where
  /-- There is a good result if no visit offends. -/
  fine : visits.find? Visit.offends = none → ∃ value, outcome = .ok value ∧ good value
  /-- The first visit that offends says what is wrong. -/
  stopped : ∀ visit, visits.find? Visit.offends = some visit → outcome = .error visit.fault

namespace Follows

variable
  {α β : Type}
  {first : Except Fault α}
  {visits : List Visit}
  {good : α → Prop}

theorem ok
    {value : α}
    (isGood : good value) :
    Follows (.ok value) [] good :=
  ⟨fun _ => ⟨value, rfl, isGood⟩, nofun⟩

/-- A single visit. -/
theorem single
    {visit : Visit}
    (fine : visit.offends = false → ∃ value, first = .ok value ∧ good value)
    (stopped : visit.offends = true → first = .error visit.fault) :
    Follows first [visit] good := by
  cases offends : visit.offends with
  | false => exact ⟨fun _ => fine offends, by simp [offends]⟩
  | true => exact ⟨by simp [offends], by simpa [offends] using stopped offends⟩

/-- Steps in a row follow the visits of both. -/
theorem bind
    {next : α → Except Fault β}
    {visitsNext : List Visit}
    {goodNext : β → Prop}
    (follows : Follows first visits good)
    (followsNext : ∀ value, good value → Follows (next value) visitsNext goodNext) :
    Follows (first >>= next) (visits ++ visitsNext) goodNext where
  fine none := by
    rw [List.find?_append, Option.or_eq_none_iff] at none
    obtain ⟨value, made, isGood⟩ := follows.fine none.1
    rw [made, ok_bind]
    exact (followsNext value isGood).fine none.2
  stopped visit found := by
    rw [List.find?_append] at found
    cases foundFirst : visits.find? Visit.offends with
    | some other =>
      rw [foundFirst, Option.some_or] at found
      rw [follows.stopped other foundFirst, error_bind, Option.some.inj found]
    | none =>
      rw [foundFirst, Option.none_or] at found
      obtain ⟨value, made, isGood⟩ := follows.fine foundFirst
      rw [made, ok_bind]
      exact (followsNext value isGood).stopped visit found

/-- A last step that visits nothing. -/
theorem bind_ok
    {next : α → Except Fault β}
    {goodNext : β → Prop}
    (follows : Follows first visits good)
    (gives : ∀ value, good value → ∃ result, next value = .ok result ∧ goodNext result) :
    Follows (first >>= next) visits goodNext := by
  rw [← List.append_nil visits]
  refine follows.bind fun value isGood => ?_
  obtain ⟨result, given, isGoodNext⟩ := gives value isGood
  rw [given]
  exact .ok isGoodNext

end Follows

/-! ## Conversion -/

namespace Datum

/-- A literal that has no parts. -/
theorem standsFor_leaf
    {given value : Datum}
    (typed : Typed.Value Label.IsWord value)
    (nodes : value.nodes = [value])
    (sound : value.isUnprintable = value.isLongWhole)
    (long : value.isLongWhole = given.visits.any Visit.isLong)
    (mirror : Mirror.value value = given.literal) :
    StandsFor given value :=
  ⟨typed, by simp [Sound, nodes, sound], by simp [hasLong, nodes, long], mirror⟩

theorem follows_scalar
    {value : Scalar}
    (finite : value.Finite) :
    Follows (convert (.scalar value)) [.thing (.scalar value)] (StandsFor (.scalar value)) := by
  have made {result : Datum} (isLiteral : value.toLiteral? = some result)
      (stands : StandsFor (.scalar value) result) :
      Follows (convert (.scalar value)) [.thing (.scalar value)] (StandsFor (.scalar value)) := by
    refine .single (fun _ => ⟨result, ?_, stands⟩) ?_
    · rw [convert, isLiteral]
    · intro offends
      cases value <;> cases isLiteral <;> cases offends
  cases value with
  | bool value => exact made rfl (standsFor_leaf (.boolean value) rfl rfl rfl rfl)
  | int value => exact made rfl (standsFor_leaf (.int rfl) rfl rfl (Bool.or_false _).symm rfl)
  | float value =>
    have printable : isUnprintable (.floatValue (.float value)) = false := by
      rw [isUnprintable, show value.isFinite = true from finite, Bool.not_true]
    exact made rfl (standsFor_leaf (.float value) rfl printable rfl rfl)
  | decimal value =>
    have printable : isUnprintable (.floatValue (.decimal value)) = false := by
      rw [isUnprintable, show value.isFinite = true from finite, Bool.not_true]
    exact made rfl (standsFor_leaf (.decimal value) rfl printable rfl rfl)
  | text _ | uuid _ | date _ | time _ | moment _ =>
    exact made rfl (standsFor_leaf (.string rfl) rfl rfl rfl rfl)
  | complex _ _ | bytes _ => exact .single Bool.noConfusion fun _ => rfl

theorem follows_member
    {name : String}
    (noLineFeed : '\n' ∉ name.toList)
    (family : Family)
    (value : Datum)
    (others : List (String × Datum)) :
    Follows (convert (.member family name value others))
      [.thing (.member family name value others)]
      (StandsFor (.member family name value others)) := by
  have same := Name.accepts_eq_isName noLineFeed
  rw [convert, Node.enumValue]
  by_cases isName : Name.IsName name
  · rw [Node.checkName_of_accepts (Name.accepts_of_isName isName), ok_bind]
    cases isReserved : Name.isReserved name with
    | true =>
      refine .single ?_ ?_
      · simp [Visit.offends, isReserved]
      · simp [Visit.fault, isName, isReserved, Label.plain]
    | false =>
      refine .single ?_ ?_
      · intro _
        refine ⟨_, if_neg (by simp [Label.plain, isReserved]), ?_⟩
        exact standsFor_leaf (.enum (Label.isWord_plain isName) isReserved) rfl rfl rfl rfl
      · simp [Visit.offends, isName, isReserved]
  · rw [Node.checkName_of_not_accepts (by simpa [same] using isName)]
    exact .single (by simp [Visit.offends, isName]) (by simp [Visit.fault, isName])

/-- A value is converted to itself. -/
theorem follows_value
    {datum : Datum}
    (isValue : datum.isValue = true)
    (converted : datum.convert = .ok datum)
    (offends : (Visit.thing datum).offends = !datum.isValue)
    (long : datum.hasLong = datum.visits.any Visit.isLong)
    (same : datum.literal = Mirror.value datum)
    (regular : Typed.Value Label.IsWord datum ∧ datum.Sound) :
    Follows datum.convert [.thing datum] (StandsFor datum) := by
  refine .single (fun _ => ⟨datum, converted, regular.1, regular.2, long, same.symm⟩) ?_
  rw [offends, isValue]
  nofun

/-- Data that no literal stands for is refused. -/
theorem follows_unsupported
    {datum : Datum}
    (converted : datum.convert = .error (Visit.thing datum).fault)
    (offends : (Visit.thing datum).offends = true) :
    Follows datum.convert [.thing datum] (StandsFor datum) := by
  refine .single ?_ fun _ => converted
  rw [offends]
  nofun

theorem asText?_eq (given : Datum) : given.asText? = given.asLabel?.map Label.text := by
  unfold asText? asLabel?
  split
  case h_1 => rfl
  case h_2 => split <;> rfl
  case h_3 => rfl

/-- The entry is under a name, and the field has that name and a value that stands for
the entry's. -/
def FieldStandsFor (entry : Datum × Datum) (field : Datum) : Prop :=
  ∃ name value, entry.1 = .text name ∧ Name.IsName name ∧ StandsFor entry.2 value ∧
    field = .objectField (.plain name) value

theorem follows_objectField
    {key item value : Datum}
    (regular : ∀ text, key.asText? = some text → key = .text text ∧ '\n' ∉ text.toList)
    (stands : StandsFor item value) :
    Follows (Node.objectField key value) [.key key] (FieldStandsFor (key, item)) := by
  cases isText : key.asText? with
  | some name =>
    obtain ⟨rfl, noLineFeed⟩ := regular name isText
    by_cases isName : Name.IsName name
    · refine .single (fun _ => ⟨.objectField (.plain name) value, ?_, ?_⟩) ?_
      · rw [Node.objectField, Node.checkName_of_accepts (Name.accepts_of_isName isName)]
        rfl
      · exact ⟨name, value, rfl, isName, stands, rfl⟩
      · simp [Visit.offends, isName]
    · have refused : ¬Name.accepts name = true := by
        simpa [Name.accepts_eq_isName noLineFeed] using isName
      refine .single (by simp [Visit.offends, isName]) fun _ => ?_
      rw [Node.objectField, Node.checkName_of_not_accepts refused]
      rfl
  | none =>
    have noLabel : key.asLabel? = none := by simpa [asText?_eq] using isText
    have offends : (Visit.key key).offends = true := by
      unfold Visit.offends
      split <;> simp_all [asText?]
    refine .single (by simp [offends]) fun _ => ?_
    rw [Node.objectField, Node.checkName, noLabel]
    rfl

/-! ## Long numbers in lists and objects -/

theorem visitsOfItems_eq (items : List Datum) : visitsOfItems items = items.flatMap visits := by
  induction items with
  | nil => rfl
  | cons item items inductionHypothesis =>
    rw [visitsOfItems, inductionHypothesis, List.flatMap_cons]

theorem visitsOfEntries_eq (entries : List (Datum × Datum)) :
    visitsOfEntries entries = entries.flatMap fun entry => entry.2.visits ++ [.key entry.1] := by
  induction entries with
  | nil => rfl
  | cons entry entries inductionHypothesis =>
    rw [visitsOfEntries, inductionHypothesis, List.flatMap_cons, List.append_assoc]
    rfl

theorem sound_listValue_iff (values : List Datum) :
    (listValue (.tuple values)).Sound ↔ ∀ value ∈ values, value.Sound := by
  simp only [Sound, nodes_listValue, nodes_tuple, List.forall_mem_cons, List.forall_mem_flatMap]
  exact and_iff_right Bool.noConfusion

theorem hasLong_listValue (values : List Datum) :
    (listValue (.tuple values)).hasLong = values.any hasLong := by
  simp only [hasLong, nodes_listValue, nodes_tuple, List.any_cons, List.any_flatMap]
  exact Bool.false_or _

theorem sound_objectFields_iff (fields : List (Label × Datum)) :
    (objectValue (Typed.objectFields fields)).Sound ↔ ∀ field ∈ fields, field.2.Sound := by
  simp only [Sound, Typed.objectFields, nodes_objectValue, nodes_tuple, nodes_objectField,
    List.forall_mem_cons, List.forall_mem_flatMap, List.forall_mem_map]
  refine (and_iff_right Bool.noConfusion).trans (forall₂_congr fun field _ => ?_)
  exact and_iff_right Bool.noConfusion

theorem hasLong_objectFields (fields : List (Label × Datum)) :
    (objectValue (Typed.objectFields fields)).hasLong = fields.any (·.2.hasLong) := by
  simp only [hasLong, Typed.objectFields, nodes_objectValue, nodes_tuple, List.any_cons,
    List.any_flatMap, List.any_map]
  exact Bool.false_or _

/-! ## Lists and objects -/

/-- Fields that stand for entries have the keys for names, and the values stand for the
values. -/
theorem exists_named
    {entries : List (Datum × Datum)}
    {fields : List Datum}
    (stand : List.Forall₂ FieldStandsFor entries fields) :
    ∃ named : List (String × Datum),
      fields = named.map (fun field => .objectField (.plain field.1) field.2) ∧
        named.map (·.1) = entries.filterMap (·.1.asText?) ∧
        (∀ field ∈ named, Name.IsName field.1 ∧ Typed.Value Label.IsWord field.2 ∧
          field.2.Sound) ∧
        named.any (·.2.hasLong) = (visitsOfEntries entries).any Visit.isLong ∧
        named.map (fun field => (field.1, Mirror.value field.2)) = entryLiterals entries := by
  induction stand with
  | nil => exact ⟨[], rfl, rfl, nofun, rfl, rfl⟩
  | @cons entry field entries fields stands _ inductionHypothesis =>
    obtain ⟨named, rfl, sameKeys, wellFormed, sameLong, sameValues⟩ := inductionHypothesis
    obtain ⟨key, item⟩ := entry
    obtain ⟨name, value, rfl, isName, stands, rfl⟩ := stands
    refine ⟨(name, value) :: named, rfl, ?_, ?_, ?_, ?_⟩
    · rw [List.map_cons, sameKeys]
      rfl
    · exact List.forall_mem_cons.mpr ⟨⟨isName, stands.typed, stands.sound⟩, wellFormed⟩
    · rw [List.any_cons, sameLong, stands.long, visitsOfEntries, List.any_append, List.any_cons]
      rfl
    · rw [List.map_cons, sameValues, stands.mirror]
      rfl

/-- Fields of different names are distinct. -/
theorem checkDistinct_named
    (kind owner : String)
    {seen : List String}
    {named : List (String × Datum)}
    (distinct : (named.map (·.1)).Nodup)
    (unseen : ∀ field ∈ named, field.1 ∉ seen) :
    Node.checkDistinct kind owner (seen.map .text)
      (named.map fun field => .objectField (.plain field.1) field.2) = .ok () := by
  induction named generalizing seen with
  | nil => rfl
  | cons field named inductionHypothesis =>
    rw [List.map_cons, List.nodup_cons] at distinct
    have notSeen : (seen.map text).any (text field.1).same = false := by
      rw [List.any_map, List.any_eq_false]
      intro other present
      rw [Function.comp_apply, same_text, decide_eq_true_eq]
      rintro rfl
      exact unseen field (by simp) present
    have unseenRest : ∀ other ∈ named, other.1 ∉ field.1 :: seen := by
      intro other present
      rw [List.mem_cons, not_or]
      refine ⟨fun same => distinct.1 ?_, unseen other (by simp [present])⟩
      rw [← same]
      exact List.mem_map_of_mem present
    have rest := inductionHypothesis distinct.2 unseenRest
    rw [List.map_cons, Node.checkDistinct]
    change (if (seen.map text).any (text field.1).same then _ else _) = _
    rw [notSeen]
    exact rest

/-- Fields that stand for entries with different keys make an object that stands for the
dictionary. -/
theorem exists_objectValue
    {entries : List (Datum × Datum)}
    {fields : List Datum}
    (distinct : (entries.filterMap (·.1.asText?)).Nodup)
    (stand : List.Forall₂ FieldStandsFor entries fields) :
    ∃ value, Node.objectValue (.tuple fields) = .ok value ∧ StandsFor (.dict entries) value := by
  obtain ⟨named, rfl, sameKeys, wellFormed, sameLong, sameValues⟩ := exists_named stand
  have unique : Node.checkDistinct "input field" "input object" []
      (named.map fun field => .objectField (.plain field.1) field.2) = .ok () :=
    @checkDistinct_named _ _ [] named (by rwa [sameKeys]) (by simp)
  let labelled := named.map fun field => (Label.plain field.1, field.2)
  have relabelled : named.map (fun field => objectField (.plain field.1) field.2) =
      labelled.map fun field => objectField field.1 field.2 := by
    rw [List.map_map]
    rfl
  refine ⟨.objectValue (Typed.objectFields labelled), ?made, ?typed, ?sound, ?long, ?mirror⟩
  case made =>
    rw [Node.objectValue, Node.checkUnique, Typed.objectFields, ← relabelled]
    change (Node.checkDistinct _ _ [] _ >>= _) = _
    rw [unique]
    rfl
  case typed =>
    refine .object (List.forall_mem_map.mpr ?_) (List.forall_mem_map.mpr ?_)
    · exact fun field present => Label.isWord_plain (wellFormed field present).1
    · exact fun field present => (wellFormed field present).2.1
  case sound =>
    refine (sound_objectFields_iff labelled).mpr (List.forall_mem_map.mpr ?_)
    exact fun field present => (wellFormed field present).2.2
  case long => rw [hasLong_objectFields, List.any_map, visits, ← sameLong]; rfl
  case mirror =>
    rw [Typed.objectFields, Mirror.value, Mirror.objectFields_eq_map, List.map_map, literal,
      ← sameValues]
    rfl

theorem itemLiterals_eq (items : List Datum) : itemLiterals items = items.map literal := by
  induction items with
  | nil => rfl
  | cons item items inductionHypothesis => rw [itemLiterals, inductionHypothesis, List.map_cons]

/-- Values that stand for items make a list that stands for the collection. -/
theorem standsFor_listValue
    {given : Datum}
    {items values : List Datum}
    (shape : given.literal = .list (itemLiterals items))
    (looks : given.visits = visitsOfItems items)
    (stand : List.Forall₂ StandsFor items values) :
    StandsFor given (.listValue (.tuple values)) where
  typed := by
    refine .list fun value present => ?_
    obtain ⟨item, -, stands⟩ := exists_of_mem_forall₂ stand present
    exact stands.typed
  sound := by
    refine (sound_listValue_iff values).mpr fun value present => ?_
    obtain ⟨item, -, stands⟩ := exists_of_mem_forall₂ stand present
    exact stands.sound
  long := by
    rw [hasLong_listValue, looks, visitsOfItems_eq, List.any_flatMap]
    clear shape looks
    induction stand with
    | nil => rfl
    | cons stands _ inductionHypothesis =>
      rw [List.any_cons, List.any_cons, stands.long, inductionHypothesis]
  mirror := by
    have same : List.Forall₂ (· = ·) (values.map Mirror.value) (items.map literal) := by
      rw [List.forall₂_map_left_iff, List.forall₂_map_right_iff]
      exact stand.flip.imp fun _ _ stands => stands.mirror
    rw [List.forall₂_eq_eq_eq] at same
    rw [Mirror.value, Mirror.values_eq_map, shape, itemLiterals_eq, same]

mutual

/-- The conversion of data follows the visits to it. -/
theorem follows_convert
    {datum : Datum}
    (regular : datum.Regular) :
    Follows datum.convert datum.visits (StandsFor datum) := by
  match datum with
  | .null => exact .single (fun _ => ⟨.nullValue, rfl, standsFor_leaf .null rfl rfl rfl rfl⟩) nofun
  | .scalar value => exact follows_scalar regular
  | .member family name value others => exact follows_member regular family value others
  | .list items | .tuple items =>
    have followsItems := @follows_convertItems items regular
    exact followsItems.bind_ok fun values stand => ⟨_, rfl, standsFor_listValue rfl rfl stand⟩
  | .dict entries =>
    obtain ⟨distinct, regularEntries⟩ := regular
    exact (follows_convertEntries regularEntries).bind_ok fun fields stand =>
      exists_objectValue distinct stand
  | .nullValue | .booleanValue _ | .intValue _ | .floatValue _ | .stringValue _ | .enumValue _
  | .listValue _ | .objectValue _ | .variable _ _ _ | .bare .value _ =>
    exact follows_value rfl rfl rfl (Bool.or_false _).symm rfl (regular rfl)
  | .unset | .bare .foreign _ | .bare .typeRef _ | .bare .selection _ | .bare .definition _
  | .set _ | .model _ _ | .namedType _ | .listType _ | .nonNullType _ | .objectField _ _
  | .argument _ _ | .directive _ _ | .field _ _ _ _ _ | .fragmentSpread _ _
  | .inlineFragment _ _ _ | .operation _ _ _ _ _ | .fragmentDefinition _ _ _ _
  | .printOptions _ _ | .document _ =>
    exact follows_unsupported rfl rfl

theorem follows_convertItems
    {items : List Datum}
    (regular : AllRegular items) :
    Follows (convertItems items) (visitsOfItems items) (List.Forall₂ StandsFor items) := by
  match items with
  | [] => exact .ok .nil
  | item :: items =>
    refine (follows_convert regular.1).bind fun value stands => ?_
    refine (follows_convertItems regular.2).bind_ok fun values stand => ?_
    exact ⟨_, rfl, .cons stands stand⟩

theorem follows_convertEntries
    {entries : List (Datum × Datum)}
    (regular : EntriesRegular entries) :
    Follows (convertEntries entries) (visitsOfEntries entries)
      (List.Forall₂ FieldStandsFor entries) := by
  match entries with
  | [] => exact .ok .nil
  | (key, item) :: entries =>
    obtain ⟨regularKey, regularItem, regularRest⟩ := regular
    refine (follows_convert regularItem).bind fun value stands => ?_
    refine (follows_objectField regularKey stands).bind fun field standsToo => ?_
    refine (follows_convertEntries regularRest).bind_ok fun fields stand => ?_
    exact ⟨_, rfl, .cons standsToo stand⟩

end

/-! ## Values in texts -/

/-- A typed value that can be printed is read back from its text. -/
theorem exists_valueText
    {value : Datum}
    (typed : Typed.Value Label.IsWord value)
    (printable : value.Printable) :
    ∃ text, value.valueText = .ok text ∧
      Source.Value.parse false text = .ok (Mirror.value value) := by
  have yields := Written.yields_value (Written.namesFit_of_isWord True) typed
  obtain ⟨written, isWritten⟩ := yields.exists_iff.mpr printable
  obtain ⟨meant, means, same⟩ := yields.good written isWritten
  have spells := Layout.spells_value Layout.namesRead_of_isName means
  rw [Source.Lexed.naming_of, same trivial] at spells
  have readable : (Mirror.value value).Readable false := typed.readable nofun
  refine ⟨Layout.value written, by rw [valueText, isWritten]; rfl, ?_⟩
  exact Source.Value.parse_of_readable readable spells.lexed_eq

theorem fault?_of_isLongWhole
    {node : Datum}
    (isLong : node.isLongWhole = true) :
    node.fault? = some .tooLongToWrite := by
  unfold isLongWhole at isLong
  split at isLong
  case h_1 => rw [fault?, if_pos isLong]
  case h_2 => cases isLong

theorem printable_of_sound
    {value : Datum}
    (sound : value.Sound)
    (short : value.hasLong = false) :
    value.Printable := by
  intro node present
  rw [Bool.eq_false_iff]
  intro unprintable
  rw [hasLong, List.any_eq_false] at short
  exact short node present (sound node present unprintable)

/-- The text of a value is not written if a whole number in it is too long. -/
theorem valueText_of_hasLong
    {value : Datum}
    (typed : Typed.Value Label.IsWord value)
    (sound : value.Sound)
    (long : value.hasLong = true) :
    value.valueText = .error .tooLongToWrite := by
  have stopped : Written.value value = .error .tooLongToWrite := by
    rw [typed.stops.error_iff]
    cases found : value.nodes.findSome? fault? with
    | none =>
      obtain ⟨node, present, isLong⟩ := List.any_eq_true.mp long
      have fine := List.findSome?_eq_none_iff.mp found node present
      rw [fault?_of_isLongWhole isLong] at fine
      cases fine
    | some fault =>
      obtain ⟨node, present, isFault⟩ := List.exists_of_findSome?_eq_some found
      have unprintable : node.isUnprintable = true := by
        rw [← isSome_fault?, isFault, Option.isSome_some]
      rw [← isFault, fault?_of_isLongWhole (sound node present unprintable)]
  rw [valueText, stopped]
  rfl

/-- What the value is written as is read back as the literal of the data, or there is no text
since some visit found a whole number that is too long. -/
theorem StandsFor.text_exact
    {given value : Datum}
    (stands : StandsFor given value) :
    ((∀ visit ∈ given.visits, visit.isLong = false) →
        ∃ text, value.valueText = .ok text ∧
          Source.Value.parse false text = .ok given.literal) ∧
      ((∃ visit ∈ given.visits, visit.isLong = true) →
        value.valueText = .error .tooLongToWrite) := by
  rw [← stands.mirror, ← List.any_eq_true, ← stands.long]
  refine ⟨fun short => exists_valueText stands.typed (printable_of_sound stands.sound ?_),
    valueText_of_hasLong stands.typed stands.sound⟩
  rw [stands.long]
  simpa using short

/-- Data in order is converted exactly if no visit to it offends, where records are taken
as the dictionaries that they become.  The first visit that does says what is wrong.
Otherwise the text of the value is read back as the literal of the shape of the data, or
there is no text since some visit found a whole number that is too long. -/
theorem toValue_exact
    {datum : Datum}
    (regular : datum.unfold.Regular) :
    ((∃ value, datum.toValue = .ok value) ↔
        ∀ visit ∈ datum.unfold.visits, visit.offends = false) ∧
      (∀ visit, datum.unfold.visits.find? Visit.offends = some visit →
        datum.toValue = .error visit.fault) ∧
      ∀ value, datum.toValue = .ok value →
        ((∀ visit ∈ datum.unfold.visits, visit.isLong = false) →
          ∃ text, value.valueText = .ok text ∧
            Source.Value.parse false text = .ok datum.unfold.literal) ∧
        ((∃ visit ∈ datum.unfold.visits, visit.isLong = true) →
          value.valueText = .error .tooLongToWrite) := by
  obtain ⟨fine, stopped⟩ := follows_convert regular
  have fine_of_ok {value : Datum} (made : datum.toValue = .ok value) :
      datum.unfold.visits.find? Visit.offends = none := by
    cases found : datum.unfold.visits.find? Visit.offends with
    | none => rfl
    | some visit =>
      rw [toValue, stopped visit found] at made
      cases made
  refine ⟨⟨?made, ?fine⟩, stopped, ?text⟩
  case made =>
    rintro ⟨value, made⟩
    simpa using List.find?_eq_none.mp (fine_of_ok made)
  case fine =>
    intro none
    obtain ⟨value, made, -⟩ := fine (List.find?_eq_none.mpr (by simpa using none))
    exact ⟨value, made⟩
  case text =>
    intro value made
    obtain ⟨other, madeOther, stands⟩ := fine (fine_of_ok made)
    obtain rfl : other = value := Except.ok.inj (madeOther.symm.trans made)
    exact stands.text_exact

/-- A record and a tuple are converted, and a set under a key that is no name is refused
before the key is. -/
theorem toValue_exact_record :
    let record : Datum := .model 0 [(⟨"name", some "fullName"⟩, .text "A"), (⟨"age", none⟩, .null)]
    (∃ value text,
      toValue (.dict [(.text "who", record), (.text "ids", .tuple [.int 1, .null])]) = .ok value ∧
        value.valueText = .ok text ∧ Source.Value.parse false text = .ok (.object
          [("who", .object [("fullName", .string "A" false)]), ("ids", .list [.int "1", .null])])) ∧
      toValue (.dict [(.text "no name", .set [])]) = .error (.unsupportedValue (.set [])) := by
  intro record
  have regularKey {name : String} (fine : '\n' ∉ name.toList) (text : String)
      (same : (Datum.text name).asText? = some text) :
      Datum.text name = .text text ∧ '\n' ∉ text.toList := by
    obtain rfl := Option.some.inj same
    exact ⟨rfl, fine⟩
  constructor
  · have regular : (unfold (.dict [(.text "who", record),
        (.text "ids", .tuple [.int 1, .null])])).Regular :=
      ⟨by decide, regularKey (by decide), ⟨by decide, regularKey (by decide), trivial, trivial⟩,
        regularKey (by decide), ⟨trivial, trivial, trivial⟩, trivial⟩
    obtain ⟨exact, -, text⟩ := toValue_exact regular
    obtain ⟨value, made⟩ := exact.mpr (by decide)
    obtain ⟨text, written, parsed⟩ := (text value made).1 (by decide)
    exact ⟨value, text, made, written, parsed⟩
  · have regular : (unfold (.dict [(.text "no name", .set [])])).Regular :=
      ⟨by decide, regularKey (by decide), nofun, trivial⟩
    obtain ⟨-, stopped, -⟩ := toValue_exact regular
    exact stopped (.thing (.set [])) rfl

/-! ## Records -/

/-- The data holds other data: it is the data, or one of its items, values or fields
does. -/
inductive Holds : Datum → Datum → Prop
  | self (datum : Datum) : Holds datum datum
  | list {items : List Datum} {item object : Datum} :
      item ∈ items →
      Holds item object →
      Holds (.list items) object
  | tuple {items : List Datum} {item object : Datum} :
      item ∈ items →
      Holds item object →
      Holds (.tuple items) object
  | dict {entries : List (Datum × Datum)} {entry : Datum × Datum} {object : Datum} :
      entry ∈ entries →
      Holds entry.2 object →
      Holds (.dict entries) object
  | model
      {serial : Nat}
      {fields : List (FieldName × Datum)}
      {field : FieldName × Datum}
      {object : Datum} :
      field ∈ fields →
      Holds field.2 object →
      Holds (.model serial fields) object

/-- What no literal stands for does not keep the record that holds it from being
converted: a type in a record becomes a dictionary with it.  The least whole number that is
too long is converted without a text, and as a key it is not even named as what is wrong. -/
theorem exists_toValue_of_unsupported_or_long :
    (¬∀ datum, (∃ value, toValue datum = .ok value) →
        ∀ object, datum.Holds object → toValue object ≠ .error (.unsupportedValue object)) ∧
      (∃ value, toValue (.int (10 ^ Number.Whole.mostDigits)) = .ok value ∧
        value.valueText = .error .tooLongToWrite) ∧
      toValue (.dict [(.int (10 ^ Number.Whole.mostDigits), .null)]) = .error .tooLongToWrite := by
  have long := Numeral.isLong_power
  generalize (10 : Int) ^ Number.Whole.mostDigits = number at long ⊢
  refine ⟨fun claimed => ?record, ?written, ?key⟩
  case record =>
    have converted : ∃ value,
        toValue (.model 0 [(⟨"t", none⟩, .namedType (.plain "Int"))]) = .ok value := ⟨_, rfl⟩
    exact claimed _ converted (.namedType (.plain "Int"))
      (.model (List.mem_singleton_self _) (.self _)) rfl
  case written =>
    refine ⟨.intValue (.int number), rfl, valueText_of_hasLong (.int rfl) ?_ ?_⟩
    · exact List.forall_mem_singleton.mpr id
    · exact (Bool.or_false _).trans long
  case key =>
    have raised : (Fault.invalidName "input field name" (.int number)).raised =
        .tooLongToWrite := if_pos long
    rw [← raised]
    rfl

end Datum
end GraphQL
