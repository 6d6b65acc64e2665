import GraphQL.Proofs.Data.Within
import GraphQL.Proofs.Request.Payload
import GraphQL.Proofs.Request.Repeat

/-!
# Requests that are sent

What can be sent with all of its fields can be taken in and then sent.  A request for a
document is refused only for the name of an operation that the document does not have.
Otherwise its payload has the text of the document, the values of variables in their order
and the name, each exactly if it is there.
-/

namespace GraphQL

open Outcome

namespace Datum

/-! ## Data that can be sent -/

theorem exists_toJson_ofLabel (label : Label) (dropNulls : Bool) :
    ∃ sent, (ofLabel label).toJson dropNulls = .ok sent := by
  unfold ofLabel
  split
  case h_1 => exact ⟨_, rfl⟩
  case h_2 => exact ⟨_, rfl⟩

theorem exists_toJson_ofLabel? (label? : Option Label) (dropNulls : Bool) :
    ∃ sent, (ofLabel? label?).toJson dropNulls = .ok sent := by
  cases label? with
  | none => exact ⟨_, rfl⟩
  | some label => exact exists_toJson_ofLabel label dropNulls

/-- A node can be sent exactly if all of its parts can. -/
theorem exists_toJson_node_iff
    {node : Datum}
    (someParts : node.parts ≠ [])
    (dropNulls : Bool) :
    (∃ sent, node.toJson dropNulls = .ok sent) ↔
      ∀ part ∈ node.parts, ∃ sent, part.2.toJson dropNulls = .ok sent := by
  cases node with
  | null | unset | scalar | bare | member | list | tuple | set | dict | model | nullValue =>
    exact absurd rfl someParts
  | _ =>
    simp [toJson, parts, exists_bind_iff, exists_toJson_ofLabel, exists_toJson_ofLabel?, pure,
      Except.pure]

/-- What can be sent with all fields can be sent without those that hold null. -/
theorem exists_toJson_of_exists
    {datum : Datum}
    (sends : ∃ sent, datum.toJson false = .ok sent) :
    ∃ sent, datum.toJson true = .ok sent := by
  suffices climbs : Climbs fun datum =>
      (∃ sent, datum.toJson false = .ok sent) → ∃ sent, datum.toJson true = .ok sent from
    climbs.all datum sends
  intro whole ofHeld sends
  by_cases someParts : whole.parts ≠ []
  · rw [exists_toJson_node_iff someParts] at sends ⊢
    rw [held_of_parts someParts, List.forall_mem_map] at ofHeld
    exact fun part present => ofHeld part present (sends part present)
  · cases whole with
    | list items | tuple items | set items =>
      rw [toJson, exists_map_iff, toJsonItems_eq, exists_mapM_iff] at sends ⊢
      exact fun item present => ofHeld item present (sends item present)
    | dict entries =>
      rw [toJson, exists_map_iff, toJsonEntries_eq, exists_mapM_iff] at sends ⊢
      intro entry present
      obtain ⟨key, sentKey, sendsValue⟩ := exists_bind_iff.mp (sends entry present)
      refine exists_bind_iff.mpr ⟨key, sentKey, ?_⟩
      rw [exists_entry_iff] at sendsValue ⊢
      exact ofHeld entry.2 (List.mem_append_right _ (List.mem_map_of_mem present)) sendsValue
    | model serial fields =>
      rw [toJson, exists_map_iff, toJsonFields_eq, exists_mapM_iff] at sends ⊢
      intro field present
      have isField : field ∈ fields := List.mem_of_mem_filter present
      have sendsField := sends field isField
      rw [exists_entry_iff] at sendsField ⊢
      exact ofHeld field.2 (List.mem_map_of_mem isField) sendsField
    | member family name value others => exact ofHeld value List.mem_cons_self sends
    | null | unset | scalar | bare | nullValue => exact sends
    | _ => simp [parts] at someParts

end Datum

namespace Node

/-- A name that has got through the gate is a text or a member that counts as one. -/
theorem mixin_of_checkName
    {kind : String}
    {given : Datum}
    {name : Label}
    (checked : checkName kind given = .ok name) :
    ∀ member ∈ name.member?, member.1.mixin = .text := by
  unfold checkName at checked
  split at checked
  case h_2 => cases checked
  case h_1 label isLabel =>
    split at checked
    case isFalse => cases checked
    case isTrue =>
      obtain rfl := Except.ok.inj checked
      unfold Datum.asLabel? at isLabel
      split at isLabel
      case h_1 =>
        obtain rfl := Option.some.inj isLabel
        simp [Label.plain]
      case h_2 =>
        split at isLabel
        case isTrue isText =>
          obtain rfl := Option.some.inj isLabel
          intro member isMember
          rw [← Option.some.inj isMember]
          exact isText
        case isFalse => cases isLabel
      case h_3 => cases isLabel

end Node

namespace Request

open Datum

/-! ## Values that are taken in -/

theorem exists_takeRecord
    {value : Datum}
    (sends : ∃ sent, value.toJson false = .ok sent) :
    ∃ taken sent, takeRecord value = .ok taken ∧ taken.toJson false = .ok sent := by
  cases value with
  | model serial fields =>
    obtain ⟨sent, made⟩ := exists_toJson_of_exists sends
    refine ⟨sent.toDatum, sent, ?_, toJson_toDatum (settled_toJson made) false⟩
    rw [takeRecord, made]
    rfl
  | _ =>
    obtain ⟨sent, made⟩ := sends
    exact ⟨_, sent, rfl, made⟩

/-- Items for which two steps in a row give results give them one after the other. -/
theorem exists_mapM_mapM
    {ε α β γ : Type}
    {first : α → Except ε β}
    {second : β → Except ε γ}
    {items : List α}
    (gives : ∀ item ∈ items, ∃ middle last, first item = .ok middle ∧ second middle = .ok last) :
    ∃ middles lasts, items.mapM first = .ok middles ∧ middles.mapM second = .ok lasts := by
  have givesFirst : ∀ item ∈ items, ∃ middle, first item = .ok middle := by
    intro item present
    obtain ⟨middle, -, found, -⟩ := gives item present
    exact ⟨middle, found⟩
  obtain ⟨middles, found⟩ := exists_mapM_iff.mpr givesFirst
  have givesSecond : ∀ middle ∈ middles, ∃ last, second middle = .ok last := by
    intro middle present
    obtain ⟨item, among, isMiddle⟩ := exists_of_mem_forall₂ (mapM_eq_ok_iff.mp found) present
    obtain ⟨other, last, isMiddleToo, isLast⟩ := gives item among
    obtain rfl := Except.ok.inj (isMiddle.symm.trans isMiddleToo)
    exact ⟨last, isLast⟩
  obtain ⟨lasts, foundLasts⟩ := exists_mapM_iff.mpr givesSecond
  exact ⟨middles, lasts, found, foundLasts⟩

/-- A value that can be sent can be taken in and then sent. -/
theorem exists_takeValue
    {value : Datum}
    (sends : ∃ sent, value.toJson false = .ok sent) :
    ∃ taken sent, takeValue value = .ok taken ∧ taken.toJson false = .ok sent := by
  cases value with
  | list items =>
    rw [toJson, exists_map_iff, toJsonItems_eq, exists_mapM_iff] at sends
    obtain ⟨taken, sent, took, made⟩ :=
      exists_mapM_mapM fun item present => exists_takeRecord (sends item present)
    refine ⟨.list taken, .list sent, ?_, ?_⟩
    · rw [takeValue, took]
      rfl
    · rw [toJson, toJsonItems_eq, made]
      rfl
  | _ => exact exists_takeRecord sends

theorem sentVariables_eq_ok_iff
    {values : List (String × Datum)}
    {members : List (String × JsonValue)} :
    sentVariables values = .ok members ↔
      List.Forall₂ (fun value member => member.1 = value.1 ∧ value.2.toJson false = .ok member.2)
        values members := by
  rw [sentVariables, mapM_eq_ok_iff]
  simp only [entry_eq_ok_iff]

/-- A value is sent under the text of its key, and null is sent as null. -/
def SentAs (entry : Datum × Datum) (member : String × JsonValue) : Prop :=
  entry.1.asText? = some member.1 ∧ (entry.2 = .null → member.2 = .null)

/-- Values that can be sent can be taken in under their names and then sent. -/
theorem exists_sentVariables
    {entries : List (Datum × Datum)}
    (texts : ∀ entry ∈ entries, entry.1.asText?.isSome = true)
    (sends : ∀ entry ∈ entries, ∃ sent, entry.2.toJson false = .ok sent) :
    ∃ taken members, takeVariables entries = .ok taken ∧
      sentVariables (named taken) = .ok members ∧ List.Forall₂ SentAs entries members := by
  induction entries with
  | nil => exact ⟨[], [], rfl, rfl, .nil⟩
  | cons entry entries inductionHypothesis =>
    rw [List.forall_mem_cons] at texts sends
    obtain ⟨text, isText⟩ := Option.isSome_iff_exists.mp texts.1
    obtain ⟨value, sent, took, made⟩ := exists_takeValue sends.1
    obtain ⟨taken, members, tookRest, madeRest, areSent⟩ := inductionHypothesis texts.2 sends.2
    have isSent : SentAs entry (text, sent) := by
      refine ⟨isText, fun isNull => ?_⟩
      rw [isNull] at took
      obtain rfl := Except.ok.inj took
      exact (Except.ok.inj made).symm
    refine ⟨(entry.1, value) :: taken, (text, sent) :: members, ?_, ?_, .cons isSent areSent⟩
    · rw [takeVariables_eq_ok_iff] at tookRest ⊢
      exact .cons ⟨rfl, took⟩ tookRest
    · rw [sentVariables_eq_ok_iff] at madeRest ⊢
      refine .cons ⟨?_, made⟩ madeRest
      simp only [isText, Option.getD_some]

/-! ## Operations of documents -/

/-- The optional name of an operation as data. -/
def chosen : Option String → Datum
  | some name => .text name
  | none => .null

/-- Optional values of variables as data. -/
def given : Option (List (Datum × Datum)) → Datum
  | some entries => .dict entries
  | none => .null

/-- The names of operations have got through the gate. -/
def OperationsGated (definitions : List Datum) : Prop :=
  ∀ definition ∈ definitions, ∀ name, definition.known? = some ("operation", name) →
    ∃ given, Node.checkName "operation name" given = .ok name

/-- A text is the same as the name of a definition exactly if that is an operation of the
name. -/
theorem same_name_iff
    {definition : Datum}
    (gated : ∀ name, definition.known? = some ("operation", name) →
      ∃ given, Node.checkName "operation name" given = .ok name)
    (name : String) :
    (definition.isOperation = true ∧ ∃ other, definition.part? "name" = some other ∧
        (text name).same other = true) ↔
      Datum.operationName? definition = some name := by
  cases definition with
  | operation kind name? declared directives selections =>
    cases name? with
    | none => simp [part?, parts, same, Datum.operationName?, ofLabel?]
    | some label =>
      obtain ⟨_, checked⟩ := gated label rfl
      have sameName : (text name).same (ofLabel label) = decide (name = label.text) :=
        same_ofLabel (Label.coherent_plain_pair name (Node.mixin_of_checkName checked))
      simp only [isOperation, part?, parts, Datum.operationName?, ofLabel?, Option.map_some]
      simp [sameName]
      exact eq_comm
  | _ => simp [isOperation, Datum.operationName?]

theorem any_same_iff
    {definitions : List Datum}
    (gated : OperationsGated definitions)
    (name : String) :
    ((definitions.filter isOperation).filterMap (·.part? "name")).any (text name).same = true ↔
      name ∈ definitions.filterMap Datum.operationName? := by
  simp only [List.any_eq_true, List.mem_filterMap, List.mem_filter]
  constructor
  · rintro ⟨other, ⟨definition, ⟨among, isOperation⟩, isNamed⟩, isSame⟩
    exact ⟨definition, among,
      (same_name_iff (gated definition among) name).mp ⟨isOperation, other, isNamed, isSame⟩⟩
  · rintro ⟨definition, among, isNamed⟩
    obtain ⟨isOperation, other, isNamed, isSame⟩ :=
      (same_name_iff (gated definition among) name).mpr isNamed
    exact ⟨other, ⟨definition, ⟨among, isOperation⟩, isNamed⟩, isSame⟩

/-- A document has an operation for the name that is chosen, or refuses it. -/
theorem checkOperation_eq
    {definitions : Datum}
    {items : List Datum}
    (areItems : definitions.elements? = some items)
    (gated : OperationsGated items)
    (name : String) :
    checkOperation (.document definitions) (text name) =
      if name ∈ items.filterMap Datum.operationName? then .ok ()
      else .error (.unknownOperation name) := by
  have found : operationNames (.document definitions) =
      .ok ((items.filter isOperation).filterMap (·.part? "name")) := by
    rw [operationNames, elements_eq_ok_iff.mpr areItems]
    rfl
  rw [checkOperation, found, ok_bind, if_neg (by simp [isNull])]
  change (if _ then _ else _) = _
  simp only [any_same_iff gated]
  rfl

/-! ## Payloads -/

/-- Values under different texts are taken in under different names. -/
theorem nodup_named
    {entries taken : List (Datum × Datum)}
    (texts : ∀ entry ∈ entries, entry.1.asText?.isSome = true)
    (distinct : (entries.map (·.1.asText?)).Nodup)
    (took : takeVariables entries = .ok taken) :
    ((named taken).map (·.1)).Nodup := by
  have sameKeys : entries.map (·.1.asText?) = ((named taken).map (·.1)).map some := by
    rw [← List.forall₂_eq_eq_eq, List.map_map, List.forall₂_map_left_iff,
      List.forall₂_map_right_iff]
    exact (forall₂_named texts took).imp fun _ _ isNamed => isNamed.1
  rw [sameKeys] at distinct
  exact distinct.of_map some

/-- Values under different texts are taken for values under these texts. -/
theorem checkVariables_eq
    {entries? : Option (List (Datum × Datum))}
    {taken : List (Datum × Datum)}
    (texts : ∀ entry ∈ entries?.getD [], entry.1.asText?.isSome = true)
    (distinct : ((entries?.getD []).map (·.1.asText?)).Nodup)
    (took : takeVariables (entries?.getD []) = .ok taken) :
    checkVariables (given entries?) = .ok ([], some (entries?.map fun _ => named taken)) := by
  cases entries? with
  | none => rfl
  | some entries =>
    rw [Option.getD_some] at texts distinct took
    rw [given, checkVariables, took]
    change ((checkEntries taken).mapError PayloadFault.request >>= _) = _
    rw [checkEntries_of_texts (texts_of_takeVariables texts took),
      Keyed.merge_of_nodup (nodup_named texts distinct took)]
    rfl

/-- A request is made of a text, of values that can be taken in, and of a name. -/
theorem take_eq
    {entries? : Option (List (Datum × Datum))}
    {taken : List (Datum × Datum)}
    (texts : ∀ entry ∈ entries?.getD [], entry.1.asText?.isSome = true)
    (distinct : ((entries?.getD []).map (·.1.asText?)).Nodup)
    (took : takeVariables (entries?.getD []) = .ok taken)
    (query : String)
    (name? : Option String) :
    take (some (text query)) (given entries?) (chosen name?) =
      .ok ⟨query, entries?.map fun _ => named taken, name?⟩ := by
  have isQuery : checkText ["query"] (text query) = .ok ([], some query) := rfl
  have isName : checkName (chosen name?) = .ok ([], some name?) := by
    cases name? with
    | none => rfl
    | some name => rfl
  unfold take
  simp only [isQuery, checkVariables_eq texts distinct took, isName]
  rfl

/-- The payload of a request has the values that are sent, unless there are none. -/
theorem exists_toPayload
    {entries? : Option (List (Datum × Datum))}
    {taken : List (Datum × Datum)}
    {members : List (String × JsonValue)}
    (took : takeVariables (entries?.getD []) = .ok taken)
    (made : sentVariables (named taken) = .ok members)
    (areSent : List.Forall₂ SentAs (entries?.getD []) members)
    (query : String)
    (name? : Option String) :
    ∃ payload,
      toPayload ⟨query, entries?.map fun _ => named taken, name?⟩ = .ok payload ∧
        payload.toJson = .object (("query", .text query) ::
          ((if (entries?.getD []).isEmpty then [] else [("variables", .object members)]) ++
            (name?.map fun name => ("operationName", JsonValue.text name)).toList)) := by
  have sent : sentVariables ((entries?.map fun _ => named taken).getD []) = .ok members := by
    cases entries? with
    | none =>
      obtain rfl := Except.ok.inj took
      exact made
    | some entries => exact made
  refine ⟨⟨query, if members.isEmpty then none else some members, name?⟩, ?_, ?_⟩
  · rw [toPayload, sent]
    rfl
  · have sameEmpty : (entries?.getD []).isEmpty = members.isEmpty := by
      rw [Bool.eq_iff_iff, List.isEmpty_iff_length_eq_zero, List.isEmpty_iff_length_eq_zero,
        areSent.length_eq]
    rw [Payload.toJson, sameEmpty]
    cases members with
    | nil => rfl
    | cons => rfl

section Documents

variable
  {definitions : Datum}
  {items : List Datum}
  {entries? : Option (List (Datum × Datum))}
  {taken : List (Datum × Datum)}
  {layout : Layout}
  {built : String}
  {name? : Option String}
  (areItems : definitions.elements? = some items)
  (gated : OperationsGated items)

include areItems gated

/-- A document that has the operation that is chosen, if one is, makes a request. -/
theorem ofDocument_of_known
    (known : ∀ name ∈ name?, name ∈ items.filterMap Datum.operationName?)
    (texts : ∀ entry ∈ entries?.getD [], entry.1.asText?.isSome = true)
    (distinct : ((entries?.getD []).map (·.1.asText?)).Nodup)
    (took : takeVariables (entries?.getD []) = .ok taken)
    (isBuilt : (Datum.document definitions).build layout = .ok built) :
    ofDocument (.document definitions) (given entries?) (chosen name?) layout =
      .ok ⟨built, entries?.map fun _ => named taken, name?⟩ := by
  have passed : checkOperation (.document definitions) (chosen name?) = .ok () := by
    cases name? with
    | none =>
      rw [chosen, checkOperation, operationNames, elements_eq_ok_iff.mpr areItems]
      rfl
    | some name => rw [chosen, checkOperation_eq areItems gated, if_pos (known name rfl)]
  rw [ofDocument, passed, isBuilt]
  exact take_eq texts distinct took built name?

theorem ofDocument_of_unknown
    {name : String}
    (unknown : name ∉ items.filterMap Datum.operationName?)
    (values : Datum)
    (layout : Layout) :
    ofDocument (.document definitions) values (chosen name) layout =
      .error (.request (.unknownOperation name)) := by
  rw [ofDocument, chosen, checkOperation_eq areItems gated, if_neg unknown]
  rfl

end Documents

/-- The request for a document is refused exactly for the name of an operation that the
document does not have.  Otherwise its payload is the text of the document, then the values
of variables in their order if there are any, then the name if it is given, which just one
operation has. -/
theorem payload_exact
    {definitions document : Datum}
    {items : List Datum}
    {entries? : Option (List (Datum × Datum))}
    {layout : Layout}
    {built : String}
    (areItems : definitions.elements? = some items)
    (gated : OperationsGated items)
    (isMade : Node.document definitions = .ok document)
    (texts : ∀ entry ∈ entries?.getD [], entry.1.asText?.isSome = true)
    (distinct : ((entries?.getD []).map (·.1.asText?)).Nodup)
    (sends : ∀ entry ∈ entries?.getD [], ∃ sent, entry.2.toJson false = .ok sent)
    (isBuilt : document.build layout = .ok built)
    (name? : Option String) :
    (∀ fault, ofDocument document (given entries?) (chosen name?) layout = .error fault ↔
      ∃ name, name? = some name ∧ name ∉ items.filterMap Datum.operationName? ∧
        fault = .request (.unknownOperation name)) ∧
    ((∀ name ∈ name?, name ∈ items.filterMap Datum.operationName?) →
      ∃ request payload members,
        ofDocument document (given entries?) (chosen name?) layout = .ok request ∧
        request.toPayload = .ok payload ∧
        payload.toJson = .object (("query", .text built) ::
          ((if (entries?.getD []).isEmpty then [] else [("variables", .object members)]) ++
            (name?.map fun name => ("operationName", JsonValue.text name)).toList)) ∧
        List.Forall₂ SentAs (entries?.getD []) members ∧
        ∀ name ∈ name?, (items.filterMap Datum.operationName?).count name = 1) := by
  obtain ⟨found, areFound, distinctNames, rfl⟩ := Node.exists_of_document isMade
  obtain rfl : items = found := Option.some.inj (areItems.symm.trans areFound)
  obtain ⟨⟨nodup, -⟩, -⟩ := Node.nodup_of_checkDefinitions distinctNames
  obtain ⟨taken, members, took, made, areSent⟩ := exists_sentVariables texts sends
  refine ⟨?refused, ?sent⟩
  case refused =>
    intro fault
    by_cases unknown : ∃ name, name? = some name ∧ name ∉ items.filterMap Datum.operationName?
    · obtain ⟨name, rfl, unknown⟩ := unknown
      rw [ofDocument_of_unknown areItems gated unknown]
      constructor
      · intro same
        exact ⟨name, rfl, unknown, (Except.error.inj same).symm⟩
      · rintro ⟨other, ⟨⟩, -, rfl⟩
        rfl
    · have known : ∀ name ∈ name?, name ∈ items.filterMap Datum.operationName? := by
        intro name isName
        by_contra absent
        exact unknown ⟨name, isName, absent⟩
      rw [ofDocument_of_known areItems gated known texts distinct took isBuilt]
      constructor
      · nofun
      · rintro ⟨name, isName, absent, -⟩
        exact absurd (known name isName) absent
  case sent =>
    intro known
    obtain ⟨payload, isPayload, sameJson⟩ := exists_toPayload took made areSent built name?
    have isRequest := ofDocument_of_known areItems gated known texts distinct took isBuilt
    refine ⟨_, payload, members, isRequest, isPayload, sameJson, areSent, ?_⟩
    intro name isName
    exact List.count_eq_one_of_mem nodup (known name isName)

/-- A null that is given for a variable is sent, and a name that no operation has is
refused. -/
theorem payload_exact_null :
    let items : List Datum := [
      .operation .query (some (.plain "Q")) (.tuple []) (.tuple [])
        (.tuple [.field (.plain "a") none (.tuple []) (.tuple []) (.tuple [])]),
      .operation .query none (.tuple []) (.tuple []) (.tuple [])]
    let document : Datum := .document (.tuple items)
    let entries : List (Datum × Datum) := [(.text "x", .null)]
    (∃ request payload,
      ofDocument document (given entries) (chosen "Q") .standard = .ok request ∧
        request.toPayload = .ok payload ∧
        payload.toJson = .object [("query", .text "query Q \x7b\n  a\n\x7d\n\nquery \x7b\x7d"),
          ("variables", .object [("x", .null)]), ("operationName", .text "Q")]) ∧
      ofDocument document (given entries) (chosen "R") .standard =
        .error (.request (.unknownOperation "R")) := by
  intro items document entries
  have isName : Node.checkName "operation name" (.text "Q") = .ok (.plain "Q") := rfl
  have gated : OperationsGated items := by
    simpa [OperationsGated, items, known?] using ⟨_, isName⟩
  have texts : ∀ entry ∈ (some entries).getD [], entry.1.asText?.isSome = true := by
    simp [entries, asText?]
  have sends : ∀ entry ∈ (some entries).getD [],
      ∃ sent, entry.2.toJson false = .ok sent := by
    simp [entries, toJson]
  have isBuilt : document.build .standard =
      .ok "query Q \x7b\n  a\n\x7d\n\nquery \x7b\x7d" := rfl
  have distinct : (((some entries).getD []).map (·.1.asText?)).Nodup := by
    simp [entries]
  have exactly := @payload_exact (.tuple items) document items (some entries) .standard _
    rfl gated rfl texts distinct sends isBuilt
  constructor
  · obtain ⟨request, payload, members, isRequest, isPayload, sameJson, areSent, -⟩ :=
      (exactly "Q").2 (by simp [items, Datum.operationName?, Label.plain])
    refine ⟨request, payload, isRequest, isPayload, ?_⟩
    obtain ⟨member, rest, isSent, noMore, rfl⟩ := List.forall₂_cons_left_iff.mp areSent
    obtain rfl := List.forall₂_nil_left_iff.mp noMore
    obtain rfl : member = ("x", .null) :=
      Prod.ext (Option.some.inj isSent.1).symm (isSent.2 rfl)
    exact sameJson
  · have unknown : "R" ∉ items.filterMap Datum.operationName? := by
      simp [items, Datum.operationName?, Label.plain]
    exact ((exactly "R").1 _).mpr ⟨"R", rfl, unknown, rfl⟩

end Request
end GraphQL
